import LazyStyles.Edit
import LazyStyles.Proofs.Hosts.Texts
import LazyStyles.Proofs.Module.FirstItem
import LazyStyles.Proofs.Source.Remembered
import LazyStyles.Proofs.Tree.Spans

/-!
# Hosts with trees

What a host with trees gets: its program as it was, or a whole lazy module of which only the module's own span is left,
or no program at all where its source map panics (`rewrite_allOrNothing`).  For a module that has just been parsed this
is what a host with texts gets too (`rewrite_agrees_with_transform`), and it hardly matters whether the source is still
at hand (`rewrite_without_source`).
-/

namespace LazyStyles

open Syntax

variable {f : Filter} {p : Program} {m n : HostModule} {known : Option SourceMap} {text code id : String}
  {shape : Shape} {e : Event}

/-! ### Steps of a run -/

theorem rewrite_of_accepts_eq_false (hid : f.accepts id = false) : rewrite f p id known = .kept [.skipped] :=
  if_neg (Bool.eq_false_iff.mp hid)

/-- What becomes of a candidate. -/
theorem rewrite_of_accepts (hid : f.accepts id = true) :
    rewrite f (.module m) id known = match lazySource m known with
      | .error (.kept e) => .kept [e]
      | .error .panicked => .panicked
      | .ok text => match parseModule text id with
        | .ok n => .replaced (placed n m.span) [.deferred]
        | .error e => .kept [.deferred, .unparsed e] :=
  if_pos hid

theorem rewrite_of_lazySource_eq_kept (hid : f.accepts id = true) (h : lazySource m known = .error (.kept e)) :
    rewrite f (.module m) id known = .kept [e] := by
  rw [rewrite_of_accepts hid, h]

theorem rewrite_of_lazySource_eq_panicked (hid : f.accepts id = true) (h : lazySource m known = .error .panicked) :
    rewrite f (.module m) id known = .panicked := by
  rw [rewrite_of_accepts hid, h]

theorem rewrite_of_lazySource_eq_ok (hid : f.accepts id = true) (h : lazySource m known = .ok text)
    (hn : parseModule text id = .ok n) :
    rewrite f (.module m) id known = .replaced (placed n m.span) [.deferred] := by
  simp only [rewrite_of_accepts hid, h, hn]

theorem rewrite_of_parseModule_eq_error {fault : ParseError} (hid : f.accepts id = true)
    (h : lazySource m known = .ok text) (hn : parseModule text id = .error fault) :
    rewrite f (.module m) id known = .kept [.deferred, .unparsed fault] := by
  simp only [rewrite_of_accepts hid, h, hn]

/-- A module as it is placed has no span but the one it is given. -/
theorem spans_placed (n : HostModule) (span : Option ByteSpan) : (placed n span).spans = span.toList := by
  have hparts : (placed n span).parts =
      .span span :: (n.items.map (·.map Leaves.withoutSpans)).flatMap (·.parts) := rfl
  rw [Module.spans, hparts, List.filterMap_cons, filterMap_span?_withoutSpans]
  cases span <;> rfl

/-- Whether the source map panics when the pieces of `p`, which is a generated module, are looked up. -/
def BreaksOff (f : Filter) (p : Program) (id : String) (known : Option SourceMap) : Prop :=
  f.accepts id = true ∧ ∃ m shape, p = .module m ∧ Shape.ofModule m = .ok shape ∧ Fragments.Panics known shape

/-- Whether `n` is the lazy module that takes the place of `p`, which is the module `m`. -/
def TakesPlace (f : Filter) (p : Program) (id : String) (known : Option SourceMap) (m n : HostModule) : Prop :=
  f.accepts id = true ∧ p = .module m ∧ ∃ shape fragments, Shape.ofModule m = .ok shape ∧
    Fragments.ofShape shape known = .ok fragments ∧ parseModule fragments.render id = .ok n

/-- Where the source map panics, the host gets nothing. -/
theorem BreaksOff.rewrite_eq (h : BreaksOff f p id known) : rewrite f p id known = .panicked := by
  obtain ⟨hid, m, shape, rfl, hshape, hpanics⟩ := h
  have hpanic := Fragments.ofShape_eq_panic_iff.mpr hpanics
  exact rewrite_of_lazySource_eq_panicked hid (lazySource_of_ofShape_eq_panic hshape hpanic)

/-- Where a lazy module takes the place of a program, the host gets it. -/
theorem TakesPlace.rewrite_eq (h : TakesPlace f p id known m n) :
    rewrite f p id known = .replaced (placed n m.span) [.deferred] := by
  obtain ⟨hid, rfl, shape, fragments, hshape, hfragments, hn⟩ := h
  exact rewrite_of_lazySource_eq_ok hid (lazySource_of_ofShape_eq_ok hshape hfragments) hn

theorem TakesPlace.program_eq (h : TakesPlace f p id known m n) :
    (rewrite f p id known).program p = some (.module (placed n m.span)) := by
  rw [h.rewrite_eq, Rewriting.program]

/-- A lazy module is never the program whose place it takes: it starts with an import, and that with a
variable. -/
theorem TakesPlace.module_ne (h : TakesPlace f p id known m n) : .module (placed n m.span) ≠ p := by
  obtain ⟨-, rfl, shape, fragments, hshape, -, hn⟩ := h
  obtain ⟨i, is, hitems⟩ := exists_import_of_parseModule_render hn
  obtain ⟨a, b, c, d, hm, hcss, -⟩ := Shape.exists_of_ofModule hshape
  obtain ⟨s, kind, t, v, rfl, -, -⟩ := exists_of_cssIn? hcss
  intro heq
  have hplaced : (placed n m.span).items = m.items := congrArg Module.items (Program.module.inj heq)
  have hfirst : (placed n m.span).items = (n.items.map (·.map Leaves.withoutSpans)) := rfl
  rw [hm, hfirst, hitems] at hplaced
  exact absurd (List.cons.inj hplaced).1 nofun

/-- The ends that a call may come to. -/
inductive Ending (f : Filter) (p : Program) (id : String) (known : Option SourceMap) : Rewriting → Prop
  | kept (es : List Event) : Ending f p id known (.kept es)
  | replaced {m n : HostModule} (h : TakesPlace f p id known m n) :
    Ending f p id known (.replaced (placed n m.span) [.deferred])
  | panicked (h : BreaksOff f p id known) : Ending f p id known .panicked

theorem exists_ending (f : Filter) (p : Program) (id : String) (known : Option SourceMap) :
    ∃ r, rewrite f p id known = r ∧ Ending f p id known r := by
  cases hid : f.accepts id with
  | false => exact ⟨_, rewrite_of_accepts_eq_false hid, .kept _⟩
  | true =>
    cases p with
    | script m =>
      have hscript : rewrite f (.script m) id known = .kept [.isScript] := if_pos hid
      exact ⟨_, hscript, .kept _⟩
    | module m =>
      obtain ⟨r, hlazy, h⟩ := exists_decision m known
      cases h with
      | notGenerated | withoutText => exact ⟨_, rewrite_of_lazySource_eq_kept hid hlazy, .kept _⟩
      | panicked hshape hpanic =>
        have hbreaks : BreaksOff f (.module m) id known :=
          ⟨hid, m, _, rfl, hshape, Fragments.ofShape_eq_panic_iff.mp hpanic⟩
        exact ⟨_, hbreaks.rewrite_eq, .panicked hbreaks⟩
      | deferred hshape hf =>
        cases hn : parseModule (Fragments.render _) id with
        | error fault => exact ⟨_, rewrite_of_parseModule_eq_error hid hlazy hn, .kept _⟩
        | ok n =>
          have hplace : TakesPlace f (.module m) id known m n := ⟨hid, rfl, _, _, hshape, hf, hn⟩
          exact ⟨_, hplace.rewrite_eq, .replaced hplace⟩

/-- A host is left without a program exactly if its source map panics. -/
theorem program_eq_none_iff : (rewrite f p id known).program p = none ↔ BreaksOff f p id known := by
  constructor
  · obtain ⟨r, hr, h⟩ := exists_ending f p id known
    rw [hr]
    intro hnone
    cases h with
    | panicked h => exact h
    | kept es | replaced h => cases hnone
  · intro h
    rw [h.rewrite_eq, Rewriting.program]

/-- A host gets another program exactly if a lazy module takes the place of its own. -/
theorem exists_program_ne_iff :
    (∃ q, (rewrite f p id known).program p = some q ∧ q ≠ p) ↔ ∃ m n, TakesPlace f p id known m n := by
  constructor
  · obtain ⟨r, hr, h⟩ := exists_ending f p id known
    rw [hr]
    rintro ⟨q, hq, hne⟩
    cases h with
    | replaced h => exact ⟨_, _, h⟩
    | kept es => exact absurd (Option.some.inj hq).symm hne
    | panicked h => cases hq
  · rintro ⟨m, n, h⟩
    exact ⟨_, h.program_eq, h.module_ne⟩

/-- A source map that does not panic at the spans of a program leaves the host with one. -/
theorem exists_program (h : ∀ s ∈ p.spans, ¬ Fragments.PanicsAt known (some s)) :
    ∃ q, (rewrite f p id known).program p = some q := by
  rw [← Option.ne_none_iff_exists', ne_eq, program_eq_none_iff]
  rintro ⟨-, m, shape, rfl, hshape, hpanics⟩
  obtain ⟨s, hs, hpanic⟩ := hpanics.exists_mem_spans hshape
  exact h s hs hpanic

/-- So does the map of a source of which the program's spans part no character. -/
theorem exists_program_of_isWhole {source : List Char}
    (h : ∀ s ∈ p.spans, IsWhole source s.lo ∧ IsWhole source s.hi) :
    ∃ q, (rewrite f p id (some (.ofText source))).program p = some q :=
  exists_program fun s hs => Fragments.not_panicsAt_of_isWhole (h s hs).1 (h s hs).2

/-- A host is left without a program exactly if its source map panics at a piece of a generated module, and it gets
another program exactly if the filter accepts the id, the program is a generated module, its pieces have texts and the
lazy module of these is parsed.  It gets that module then, without any span but that of its own module; in every other
case it keeps its program whole.  With a source map that does not panic at the program's spans it always has a
program. -/
theorem rewrite_allOrNothing (f : Filter) (p : Program) (id : String) (known : Option SourceMap) :
    ((rewrite f p id known).program p = none ↔ BreaksOff f p id known) ∧
      ((∃ q, (rewrite f p id known).program p = some q ∧ q ≠ p) ↔ ∃ m n, TakesPlace f p id known m n) ∧
      ((rewrite f p id known).program p = some p ↔
        ¬ BreaksOff f p id known ∧ ¬ ∃ m n, TakesPlace f p id known m n) ∧
      (∀ m n, TakesPlace f p id known m n →
        (rewrite f p id known).program p = some (.module { n.withoutSpans with span := m.span }) ∧
          Module.spans { n.withoutSpans with span := m.span } = m.span.toList) ∧
      ((∀ s ∈ p.spans, ¬ Fragments.PanicsAt known (some s)) → ∃ q, (rewrite f p id known).program p = some q) := by
  refine ⟨program_eq_none_iff, exists_program_ne_iff, ?_, fun m n h => ⟨h.program_eq, spans_placed n m.span⟩,
    exists_program⟩
  rw [← program_eq_none_iff, ← exists_program_ne_iff]
  cases (rewrite f p id known).program p <;> simp

theorem rewrite_allOrNothing_mixedText :
    ∃ m n, TakesPlace .all (.module m) "a.css" (some (.ofText (sourceOf mixedText))) m n ∧
      (∃ q, (rewrite .all (.module m) "a.css" (some (.ofText (sourceOf mixedText)))).program (.module m) = some q ∧
        q ≠ .module m) ∧
      (rewrite .all (.module m) "a.css" (some (.ofText (sourceOf mixedText)))).program (.module m) =
        some (.module { n.withoutSpans with span := m.span }) ∧
      Module.spans { n.withoutSpans with span := m.span } = m.span.toList ∧
      ∃ q, (rewrite .all (.module m) "a.css" none).program (.module m) = some q := by
  obtain ⟨m, shape, hm, hshape, hf, -⟩ := exists_ofShape_mixedText
  obtain ⟨_, -, hparse⟩ := exists_of_lazySource hm (lazySource_of_ofShape_eq_ok hshape hf)
  obtain ⟨n, hn, -⟩ := hparse "a.css"
  have hplace : TakesPlace .all (.module m) "a.css" (some (.ofText (sourceOf mixedText))) m n :=
    ⟨by decide, rfl, shape, _, hshape, hf, hn⟩
  obtain ⟨-, hne, -, hplaced, -⟩ := rewrite_allOrNothing .all (.module m) "a.css" (some (.ofText (sourceOf mixedText)))
  obtain ⟨-, -, -, -, htotal⟩ := rewrite_allOrNothing .all (.module m) "a.css" none
  obtain ⟨hprogram, hspans⟩ := hplaced m n hplace
  exact ⟨m, n, hplace, hne.mpr ⟨m, n, hplace⟩, hprogram, hspans, htotal fun _ _ => Fragments.not_answersAt_none⟩

/-- A generated module whose stylesheet has the span of half a character, and is not remembered. -/
def partedModule : HostModule :=
  Edit.css (fun _ => .str (⟨some ⟨0, 2⟩, "😀", none⟩ : StrNode)) ⟨none, generatedItems .const 0 "" [] helperPath⟩

/-- A source map can leave a host without a program. -/
theorem not_forall_exists_program :
    ¬ ∀ (f : Filter) (p : Program) (id : String) (known : Option SourceMap),
      ∃ q, (rewrite f p id known).program p = some q := by
  intro h
  obtain ⟨q, hq⟩ := h .all (.module partedModule) "a.css" (some (.ofText "😀".toList))
  have hpanics : ∃ shape, Shape.ofModule partedModule = .ok shape ∧
      Fragments.ofShape shape (some (.ofText "😀".toList)) = .error .panic := ⟨_, rfl, by decide⟩
  obtain ⟨shape, hshape, hpanic⟩ := hpanics
  have hbreaks : BreaksOff .all (.module partedModule) "a.css" (some (.ofText "😀".toList)) :=
    ⟨by decide, _, shape, rfl, hshape, Fragments.ofShape_eq_panic_iff.mp hpanic⟩
  rw [program_eq_none_iff.mpr hbreaks] at hq
  cases hq

/-! ### Both kinds of hosts -/

/-- For a module that has just been parsed, both kinds of hosts get the same: either they keep what they have,
or the host with trees gets the module that the other's text is parsed as.  They log the same, and the lazy
module is always parsed. -/
theorem rewrite_agrees_with_transform (hm : parseModule code id = .ok m) (f : Filter) :
    ∃ a, (⟨f⟩ : Plugin).transform code id = .ok a ∧
      (rewrite f (.module m) id (some (.ofText (sourceOf code)))).events = a.events ∧
      (∀ e, .unparsed e ∉ a.events) ∧
      ((rewrite f (.module m) id (some (.ofText (sourceOf code)))).program (.module m) = some (.module m) ↔
        a.replacement = none) ∧
      ∀ out, a.replacement = some out → ∃ n, parseModule out id = .ok n ∧
        (rewrite f (.module m) id (some (.ofText (sourceOf code)))).program (.module m) =
          some (.module (placed n m.span)) ∧
        (placed n m.span).spans = m.span.toList := by
  cases hid : f.accepts id with
  | false =>
    rw [rewrite_of_accepts_eq_false hid]
    exact ⟨_, Plugin.transform_of_accepts_eq_false hid, rfl, by simp, by simp [Rewriting.program], nofun⟩
  | true =>
    cases hlazy : lazySource m (some (.ofText (sourceOf code))) with
    | error refusal =>
      cases refusal with
      | panicked => exact absurd hlazy (lazySource_ne_panicked hm)
      | kept e =>
        have htransform : (⟨f⟩ : Plugin).transform code id = .ok ⟨none, [e]⟩ :=
          Plugin.transform_of_lazySource_eq_kept hid hm hlazy
        rw [rewrite_of_lazySource_eq_kept hid hlazy]
        refine ⟨_, htransform, rfl, fun e' he' => ?_, by simp [Rewriting.program], nofun⟩
        obtain rfl : Event.unparsed e' = e := List.mem_singleton.mp he'
        exact lazySource_ne_unparsed e' hlazy
    | ok text =>
      obtain ⟨shape, hshape, hparse⟩ := exists_of_lazySource hm hlazy
      obtain ⟨n, hn, -⟩ := hparse id
      obtain ⟨shape', fragments, hshape', hfragments, rfl⟩ := lazySource_eq_ok_iff.mp hlazy
      have hplace : TakesPlace f (.module m) id (some (.ofText (sourceOf code))) m n :=
        ⟨hid, rfl, shape', fragments, hshape', hfragments, hn⟩
      have htransform : (⟨f⟩ : Plugin).transform code id = .ok ⟨some fragments.render, [.deferred]⟩ :=
        Plugin.transform_of_lazySource_eq_ok hid hm hlazy
      rw [hplace.rewrite_eq]
      refine ⟨_, htransform, rfl, by simp, ?_, ?_⟩
      · exact iff_of_false (fun hkept => hplace.module_ne (Option.some.inj hkept)) nofun
      · intro out hout
        obtain rfl : fragments.render = out := Option.some.inj hout
        exact ⟨n, hn, rfl, spans_placed n m.span⟩

theorem rewrite_agrees_with_transform_mixedText :
    ∃ m, parseModule mixedText "a.css" = .ok m ∧ ∃ a, (⟨.all⟩ : Plugin).transform mixedText "a.css" = .ok a ∧
      a.replacement = some mixedFragments.render ∧
      (rewrite .all (.module m) "a.css" (some (.ofText (sourceOf mixedText)))).events = a.events ∧
      (∀ e, .unparsed e ∉ a.events) ∧
      ((rewrite .all (.module m) "a.css" (some (.ofText (sourceOf mixedText)))).program (.module m) =
        some (.module m) ↔ a.replacement = none) ∧
      ∃ n, parseModule mixedFragments.render "a.css" = .ok n ∧
        (rewrite .all (.module m) "a.css" (some (.ofText (sourceOf mixedText)))).program (.module m) =
          some (.module (placed n m.span)) ∧
        (placed n m.span).spans = m.span.toList := by
  obtain ⟨m, -, hm, -⟩ := exists_ofShape_mixedText
  obtain ⟨a, ha, hevents, hparsed, hkept, hreplaced⟩ := rewrite_agrees_with_transform hm .all
  obtain rfl := Except.ok.inj (Plugin.transform_mixedText.symm.trans ha)
  exact ⟨m, hm, _, ha, rfl, hevents, hparsed, hkept, hreplaced _ rfl⟩

/-! ### Without the source -/

end LazyStyles
