import LazyStyles.Proofs.Hosts.Decision
import LazyStyles.Proofs.Module.GeneratedText
import Mathlib.Data.List.Chain

/-!
# Hosts with texts

What a host with texts gets from the plugin.  The text that takes a module's place is the lazy module with
the pieces of the one before (`Plugin.exists_parseModule_of_transform`), and no plugin replaces it once more
(`Plugin.apply_fixes_outputs`).
-/

namespace LazyStyles

open Syntax

namespace Plugin

variable {p : Plugin} {code id out : String} {es : List Event} {m : HostModule}

/-! ### Steps of a run -/

theorem transform_of_accepts_eq_false (hid : p.filter.accepts id = false) :
    p.transform code id = .ok ⟨none, [.skipped]⟩ :=
  if_neg (Bool.eq_false_iff.mp hid)

/-- What becomes of a candidate. -/
theorem transform_of_accepts (hid : p.filter.accepts id = true) :
    p.transform code id = match parseModule code id with
      | .error e => .error (.refused e)
      | .ok m => match lazySource m (some (.ofText (sourceOf code))) with
        | .ok text => .ok ⟨some text, [.deferred]⟩
        | .error (.kept e) => .ok ⟨none, [e]⟩
        | .error .panicked => .error .panicked :=
  if_pos hid

theorem transform_of_parseModule_eq_error {e : ParseError} (hid : p.filter.accepts id = true)
    (hm : parseModule code id = .error e) : p.transform code id = .error (.refused e) := by
  rw [transform_of_accepts hid, hm]

theorem transform_of_lazySource_eq_ok (hid : p.filter.accepts id = true) (hm : parseModule code id = .ok m)
    (h : lazySource m (some (.ofText (sourceOf code))) = .ok out) :
    p.transform code id = .ok ⟨some out, [.deferred]⟩ := by
  simp only [transform_of_accepts hid, hm, h]

theorem transform_of_lazySource_eq_kept {e : Event} (hid : p.filter.accepts id = true)
    (hm : parseModule code id = .ok m) (h : lazySource m (some (.ofText (sourceOf code))) = .error (.kept e)) :
    p.transform code id = .ok ⟨none, [e]⟩ := by
  simp only [transform_of_accepts hid, hm, h]

/-- A module whose text is replaced is a candidate, is parsed and has a lazy module. -/
theorem exists_of_transform_eq_some (h : p.transform code id = .ok ⟨some out, es⟩) :
    ∃ m, p.filter.accepts id = true ∧ parseModule code id = .ok m ∧
      lazySource m (some (.ofText (sourceOf code))) = .ok out ∧ es = [.deferred] := by
  cases hid : p.filter.accepts id with
  | false => cases (transform_of_accepts_eq_false hid).symm.trans h
  | true =>
    cases hm : parseModule code id with
    | error e => cases (transform_of_parseModule_eq_error hid hm).symm.trans h
    | ok m =>
      cases hlazy : lazySource m (some (.ofText (sourceOf code))) with
      | error refusal =>
        cases refusal with
        | kept e => cases (transform_of_lazySource_eq_kept hid hm hlazy).symm.trans h
        | panicked => exact absurd hlazy (lazySource_ne_panicked hm)
      | ok text =>
        obtain ⟨htext, hes⟩ := Answer.mk.inj (Except.ok.inj
          ((transform_of_lazySource_eq_ok hid hm hlazy).symm.trans h))
        obtain rfl := Option.some.inj htext
        exact ⟨m, rfl, rfl, hlazy, hes.symm⟩

/-- What is left afterwards is the replacement, or else the text as it was. -/
theorem apply_eq_ok_iff {t : String} :
    p.apply code id = .ok t ↔ ∃ a, p.transform code id = .ok a ∧ a.replacement.getD code = t := by
  rw [apply]
  cases p.transform code id with
  | error e => simp [Except.map]
  | ok a => simp [Except.map]

theorem transform_mixedText :
    (⟨.all⟩ : Plugin).transform mixedText "a.css" = .ok ⟨some mixedFragments.render, [.deferred]⟩ := by
  obtain ⟨m, shape, hm, hshape, hf, -⟩ := exists_ofShape_mixedText
  exact transform_of_lazySource_eq_ok (by decide) hm (lazySource_of_ofShape_eq_ok hshape hf)

/-! ### Texts of the compiler of stylesheets -/

/-- Whatever the strings in a generated text are, and in however many parentheses its class map stands, the text
is replaced by the lazy module of the strings as they are quoted. -/
theorem transform_generatedText {kind : DeclarationKind} (hkind : kind ≠ .using) (depth : Nat) (css : String)
    (entries : List (String × String)) {helper : String} (hpath : helperPath.toList <:+ helper.toList)
    (hid : p.filter.accepts id = true) :
    p.transform (generatedText kind depth css entries helper) id =
      .ok ⟨some (Fragments.render ⟨quoted css,
        "\x7b " ++ ", ".intercalate (entries.map fun e => quoted e.1 ++ ": " ++ quoted e.2) ++ " \x7d",
        quoted helper⟩), [.deferred]⟩ := by
  obtain ⟨m, shape, hm, hshape, hf⟩ := exists_ofShape_generatedText hkind depth css entries hpath id
    (some (.ofText (sourceOf (generatedText kind depth css entries helper))))
  exact transform_of_lazySource_eq_ok hid hm (lazySource_of_ofShape_eq_ok hshape hf)

theorem transform_generatedText_nested :
    (⟨.all⟩ : Plugin).transform (generatedText .const 2 "a \"b\" \n" [("c", "d"), ("", "\\")] helperPath) "a.css" =
      .ok ⟨some (Fragments.render ⟨quoted "a \"b\" \n",
        "\x7b " ++ ", ".intercalate ([("c", "d"), ("", "\\")].map fun e => quoted e.1 ++ ": " ++ quoted e.2) ++ " \x7d",
        quoted helperPath⟩), [.deferred]⟩ :=
  transform_generatedText (by decide) 2 _ _ List.suffix_rfl (by decide)

/-! ### Replaced texts -/

/-- The text that takes a module's place is parsed, under any id, as the lazy module with the same pieces: the
string literal, the exported properties and the source of the import, as they stand in the module. -/
theorem exists_parseModule_of_transform (h : p.transform code id = .ok ⟨some out, es⟩) :
    ∃ m pieces, parseModule code id = .ok m ∧ Shape.piecesOf? m = some pieces ∧
      ∀ id', ∃ n, parseModule out id' = .ok n ∧ n.withoutSpans.items = lazyItems pieces.withoutSpans := by
  obtain ⟨m, -, hm, hlazy, -⟩ := exists_of_transform_eq_some h
  obtain ⟨shape, hshape, hout⟩ := exists_of_lazySource hm hlazy
  exact ⟨m, shape, hm, Shape.piecesOf?_of_ofModule hshape, hout⟩

theorem exists_parseModule_of_transform_mixedText :
    ∃ m pieces, parseModule mixedText "a.css" = .ok m ∧ Shape.piecesOf? m = some pieces ∧
      ∀ id', ∃ n, parseModule mixedFragments.render id' = .ok n ∧
        n.withoutSpans.items = lazyItems pieces.withoutSpans :=
  exists_parseModule_of_transform transform_mixedText

/-- No plugin replaces what has taken a module's place. -/
theorem transform_of_transform_eq_some (h : p.transform code id = .ok ⟨some out, es⟩) (p' : Plugin) (id' : String) :
    ∃ es', p'.transform out id' = .ok ⟨none, es'⟩ := by
  obtain ⟨m, -, hm, hlazy, -⟩ := exists_of_transform_eq_some h
  obtain ⟨shape, -, hout⟩ := exists_of_lazySource hm hlazy
  obtain ⟨n, hn, hitems⟩ := hout id'
  cases hid : p'.filter.accepts id' with
  | false => exact ⟨_, transform_of_accepts_eq_false hid⟩
  | true => exact ⟨_, transform_of_lazySource_eq_kept hid hn (lazySource_of_withoutSpans_items hitems)⟩

theorem apply_of_transform_eq_some (h : p.transform code id = .ok ⟨some out, es⟩) (p' : Plugin) (id' : String) :
    p'.apply out id' = .ok out := by
  obtain ⟨es', h'⟩ := transform_of_transform_eq_some h p' id'
  exact apply_eq_ok_iff.mpr ⟨_, h', rfl⟩

/-! ### Chains -/

/-- Whether a plugin, under some id, makes the second text of the first. -/
def Makes (s t : String) : Prop :=
  ∃ (p : Plugin) (id : String), p.apply s id = .ok t

/-- Whether a text has taken the place of a module. -/
def IsReplacement (t : String) : Prop :=
  ∃ (p : Plugin) (code id : String) (es : List Event), p.transform code id = .ok ⟨some t, es⟩

/-- How often a text differs from the one before. -/
def changes : List String → Nat
  | s :: t :: ts => (if s = t then 0 else 1) + changes (t :: ts)
  | _ => 0

/-- A text is left as it is or replaced. -/
theorem Makes.eq_or_isReplacement {s t : String} (h : Makes s t) : t = s ∨ IsReplacement t := by
  obtain ⟨p, id, h⟩ := h
  obtain ⟨⟨replacement, es⟩, ha, rfl⟩ := apply_eq_ok_iff.mp h
  cases replacement with
  | none => exact .inl rfl
  | some out => exact .inr ⟨p, s, id, es, ha⟩

theorem IsReplacement.eq_of_makes {s t : String} (hs : IsReplacement s) (h : Makes s t) : t = s := by
  obtain ⟨p, code, id, es, hs⟩ := hs
  obtain ⟨p', id', h⟩ := h
  rw [apply_of_transform_eq_some hs p' id'] at h
  exact (Except.ok.inj h).symm

/-- From a replaced text on nothing changes. -/
theorem changes_eq_zero {s : String} {ts : List String} (hs : IsReplacement s) (h : List.IsChain Makes (s :: ts)) :
    changes (s :: ts) = 0 := by
  induction ts generalizing s with
  | nil => rfl
  | cons t ts ih =>
    obtain ⟨hst, hts⟩ := List.isChain_cons_cons.mp h
    obtain rfl := hs.eq_of_makes hst
    rw [changes, if_pos rfl, ih hs hts]

/-- Along a chain of texts, each made of the one before, there is one change at most. -/
theorem changes_le_one {ts : List String} (h : List.IsChain Makes ts) : changes ts ≤ 1 := by
  induction ts with
  | nil => exact Nat.zero_le 1
  | cons s ts ih =>
    cases ts with
    | nil => exact Nat.zero_le 1
    | cons t ts =>
      obtain ⟨hst, hts⟩ := List.isChain_cons_cons.mp h
      by_cases hne : s = t
      · rw [changes, if_pos hne, Nat.zero_add]
        exact ih hts
      · have ht : IsReplacement t := hst.eq_or_isReplacement.resolve_left (Ne.symm hne)
        rw [changes, if_neg hne, changes_eq_zero ht hts]

/-- A plugin that is applied to its own result leaves it. -/
theorem apply_of_apply {t : String} (h : p.apply code id = .ok t) : p.apply t id = .ok t := by
  obtain ⟨⟨replacement, es⟩, ha, ht⟩ := apply_eq_ok_iff.mp h
  cases replacement with
  | none =>
    obtain rfl : code = t := ht
    exact h
  | some out =>
    obtain rfl : out = t := ht
    exact apply_of_transform_eq_some ha p id

/-- What has taken a module's place is left alone by every plugin, under every id; so applying a plugin twice
is applying it once, and a chain of applications changes the text once at most. -/
theorem apply_fixes_outputs :
    (∀ (p p' : Plugin) (code id id' out : String) (es : List Event),
        p.transform code id = .ok ⟨some out, es⟩ →
          (∃ es', p'.transform out id' = .ok ⟨none, es'⟩) ∧ p'.apply out id' = .ok out) ∧
      (∀ (p : Plugin) (code id t : String), p.apply code id = .ok t → p.apply t id = .ok t) ∧
      ∀ ts : List String, List.IsChain Makes ts → changes ts ≤ 1 := by
  refine ⟨fun p p' code id id' out es h => ?_, fun p code id t h => apply_of_apply h, fun ts h => changes_le_one h⟩
  exact ⟨transform_of_transform_eq_some h p' id', apply_of_transform_eq_some h p' id'⟩

theorem apply_fixes_outputs_mixedText :
    ((∃ es, (⟨.all⟩ : Plugin).transform mixedFragments.render "b.css" = .ok ⟨none, es⟩) ∧
        (⟨.all⟩ : Plugin).apply mixedFragments.render "b.css" = .ok mixedFragments.render) ∧
      (⟨.all⟩ : Plugin).apply mixedFragments.render "a.css" = .ok mixedFragments.render ∧
      changes [mixedText, mixedFragments.render] ≤ 1 := by
  obtain ⟨hfix, hidem, hchanges⟩ := apply_fixes_outputs
  have happly : (⟨.all⟩ : Plugin).apply mixedText "a.css" = .ok mixedFragments.render :=
    apply_eq_ok_iff.mpr ⟨_, transform_mixedText, rfl⟩
  refine ⟨hfix _ _ _ _ _ _ _ transform_mixedText, hidem _ _ _ _ happly, hchanges _ ?_⟩
  exact List.isChain_cons_cons.mpr ⟨⟨_, _, happly⟩, .singleton _⟩

end Plugin

end LazyStyles
