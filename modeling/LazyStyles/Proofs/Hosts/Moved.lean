import LazyStyles.Proofs.Hosts.Texts
import LazyStyles.Proofs.Module.Agreement
import LazyStyles.Proofs.Position.Lines

/-!
# Modules further down

A module that is moved down by empty lines gets the same lazy module as before, or is left alone for the same reason;
and if it is refused, then for the same fault, so many lines further down (`Plugin.transform_belowLines`).  The empty
lines are passed over before anything is read, so the same items are read from the same body.  Of these only the spans
differ, which are counted in another source, where they lead to the same texts (`lazySource_of_isSuffix`).
-/

namespace LazyStyles

open Syntax

namespace Syntax

variable {code id : String} {src source rest : List Char} {n k : Nat}

/-! ### Positions further down -/

/-- Empty lines are read as lines, if anything follows. -/
theorem advance_replicate (k n line : Nat) (hsource : source ≠ []) :
    Position.advance ⟨line, 1⟩ (k + n) (List.replicate k '\n' ++ source) = Position.advance ⟨line + k, 1⟩ n source := by
  induction k generalizing line with
  | zero => rw [Nat.zero_add, List.replicate_zero, List.nil_append, Nat.add_zero]
  | succ k ih =>
    have hbreak : (List.replicate k '\n' ++ source).isEmpty = false := by
      rw [List.isEmpty_eq_false_iff]
      exact List.append_ne_nil_of_right_ne_nil _ hsource
    rw [Nat.succ_add, List.replicate_succ, List.cons_append, Position.advance]
    simp only [beq_self_eq_true, Bool.true_or, hbreak, Bool.not_false, Bool.and_self, if_true]
    rw [ih, Nat.add_right_comm, Nat.add_assoc]

/-- Places of a source are so many lines further down behind empty lines. -/
theorem positionOf_replicate (k : Nat) (hsource : source ≠ []) (hrest : rest <:+ source) :
    positionOf (List.replicate k '\n' ++ source) rest =
      ⟨(positionOf source rest).line + k, (positionOf source rest).column⟩ := by
  have hlength : (List.replicate k '\n' ++ source).length - rest.length = k + (source.length - rest.length) := by
    have := hrest.length_le
    rw [List.length_append, List.length_replicate]
    omega
  rw [positionOf, positionOf, hlength, advance_replicate _ _ _ hsource, advance_eq, advance_eq]
  simp only [Position.mk.injEq, and_true]
  omega

/-! ### Reading further down -/

theorem sourceOf_eq (h : code.toList.head? ≠ some '\ufeff') : sourceOf code = code.toList := by
  unfold sourceOf
  split
  case h_1 s hs => exact absurd (by rw [hs, List.head?_cons]) h
  case h_2 => rfl

theorem bodyOf_replicate (k : Nat) (source : List Char) : bodyOf (List.replicate k '\n' ++ source) = bodyOf source := by
  have hblank : ∀ c ∈ List.replicate k '\n', Text.isSpace c = true := by
    intro c hc
    rw [List.eq_of_mem_replicate hc]
    decide
  exact List.dropWhile_append_of_pos hblank

/-- A source without a line for the shell is read as if none were allowed. -/
theorem readItems_bodyOf (h : ¬ "#!".toList <+: source) :
    readItems (bodyOf source) true (source.head? == some '#') = readItems (bodyOf source) true false := by
  cases hhead : source.head? == some '#' with
  | false => rfl
  | true =>
    have hbody : bodyOf source = source := by
      obtain ⟨s, rfl⟩ := List.head?_eq_some_iff.mp (beq_iff_eq.mp hhead)
      exact List.dropWhile_cons_of_neg (by decide)
    have hshell : shellLine (bodyOf source) = 0 := by
      rw [hbody]
      unfold shellLine
      split
      case h_1 s => exact absurd ⟨s, rfl⟩ h
      case h_2 => rfl
    simp only [readItems, hshell, if_true, Bool.false_eq_true, if_false]

theorem not_prefix_replicate (h : ¬ "#!".toList <+: source) : ¬ "#!".toList <+: List.replicate k '\n' ++ source := by
  cases k with
  | zero => exact h
  | succ k =>
    intro hprefix
    rw [List.replicate_succ, List.cons_append] at hprefix
    exact absurd (List.cons_prefix_cons.mp hprefix).1 (by decide)

/-- In a source without any characters there is no fault. -/
theorem ne_nil_of_readItems_eq_error {i : Issue src} (h : readItems src true false = .error i) : src ≠ [] := by
  rintro rfl
  have hempty : (readItems [] true false).toOption.isSome = true := by decide +kernel
  rw [h] at hempty
  exact absurd hempty nofun

theorem parseModule_of_error (hbody : bodyOf (sourceOf code) = src) (hshell : ¬ "#!".toList <+: sourceOf code)
    {i : Issue src} (h : readItems src true false = .error i) :
    parseModule code id = .error ⟨id, positionOf (sourceOf code) i.place.rest, i.fault⟩ := by
  subst hbody
  rw [parseModule, parse_eq_error_iff, readItems_bodyOf hshell]
  exact ⟨i, h, rfl⟩

theorem exists_parseModule_of_ok (hbody : bodyOf (sourceOf code) = src) (hshell : ¬ "#!".toList <+: sourceOf code)
    {r : Read src} (h : readItems src true false = .ok r) (id : String) :
    ∃ span, parseModule code id = .ok ⟨span, r.items.map (·.map (Leaves.toHost src (byteSize (sourceOf code))))⟩ := by
  subst hbody
  simp only [parseModule, parse, readItems_bodyOf hshell, h]
  exact ⟨_, rfl⟩

end Syntax

/-- The text with `k` empty lines in front. -/
def belowLines (k : Nat) (code : String) : String :=
  String.ofList (List.replicate k '\n' ++ code.toList)

section Parsed

variable {code id : String} (k : Nat) (hmark : code.toList.head? ≠ some '\ufeff')

include hmark

theorem sourceOf_belowLines : sourceOf (belowLines k code) = List.replicate k '\n' ++ sourceOf code := by
  have hcode : (belowLines k code).toList = List.replicate k '\n' ++ code.toList := String.toList_ofList
  have hfirst : (belowLines k code).toList.head? ≠ some '\ufeff' := by
    rw [hcode]
    cases k with
    | zero => exact hmark
    | succ k => simp [List.replicate_succ]
  rw [sourceOf_eq hfirst, sourceOf_eq hmark, hcode]

theorem bodyOf_belowLines : bodyOf (sourceOf (belowLines k code)) = bodyOf (sourceOf code) := by
  rw [sourceOf_belowLines k hmark, bodyOf_replicate]

theorem not_prefix_belowLines (hshell : ¬ "#!".toList <+: sourceOf code) :
    ¬ "#!".toList <+: sourceOf (belowLines k code) := by
  rw [sourceOf_belowLines k hmark]
  exact not_prefix_replicate hshell

/-- A fault is the same further down, at the same place of the body. -/
theorem parseModule_belowLines_of_error (hshell : ¬ "#!".toList <+: sourceOf code)
    {i : Issue (bodyOf (sourceOf code))} (h : readItems (bodyOf (sourceOf code)) true false = .error i) :
    parseModule (belowLines k code) id =
      .error ⟨id, ⟨(positionOf (sourceOf code) i.place.rest).line + k,
        (positionOf (sourceOf code) i.place.rest).column⟩, i.fault⟩ := by
  have hne : sourceOf code ≠ [] := by
    intro hnil
    apply ne_nil_of_readItems_eq_error h
    rw [hnil]
    rfl
  have hrest : i.place.rest <:+ sourceOf code := i.place.isSuffix.trans (List.dropWhile_suffix _)
  rw [parseModule_of_error (bodyOf_belowLines k hmark) (not_prefix_belowLines k hmark hshell) h,
    sourceOf_belowLines k hmark, positionOf_replicate k hne hrest]

end Parsed

/-! ### Deciding further down -/

section Texts

variable {src source source' : List Char} (hsrc : src <:+ source) (hsrc' : src <:+ source')

include hsrc hsrc'

/-- A property has the text that it was read from, whatever stands in front of it. -/
theorem propertyText_of_isSuffix (p : Property (Leaves.ofSource src)) :
    Fragments.propertyText (some (.ofText source)) (p.map (Leaves.toHost src (byteSize source))) =
      Fragments.propertyText (some (.ofText source')) (p.map (Leaves.toHost src (byteSize source'))) := by
  have hkey (k : Key (Leaves.ofSource src)) :
      Fragments.keyText (some (.ofText source)) (k.map (Leaves.toHost src (byteSize source))) =
        Fragments.keyText (some (.ofText source')) (k.map (Leaves.toHost src (byteSize source'))) := by
    cases k with
    | ident w => exact (keyText_ident hsrc w).trans (keyText_ident hsrc' w).symm
    | _ => rfl
  have hvalue (v : Expr (Leaves.ofSource src)) :
      Fragments.valueText (some (.ofText source)) (v.map (Leaves.toHost src (byteSize source))) =
        Fragments.valueText (some (.ofText source')) (v.map (Leaves.toHost src (byteSize source'))) := by
    cases v with
    | literal l =>
      cases l with
      | regex r => exact (textAt_lexeme hsrc r).trans (textAt_lexeme hsrc' r).symm
      | jsxText t => exact nomatch t
      | _ => rfl
    | _ => rfl
  cases p with
  | keyValue k v => exact Fragments.propertyText_congr (hkey k) (hvalue v)
  | _ => rfl

/-- What is decided about a module does not depend on what stands in its source in front of what was read. -/
theorem lazySource_of_isSuffix (is : List (Item (Leaves.ofSource src))) (s t : Option ByteSpan) :
    lazySource ⟨s, is.map (·.map (Leaves.toHost src (byteSize source)))⟩ (some (.ofText source)) =
      lazySource ⟨t, is.map (·.map (Leaves.toHost src (byteSize source')))⟩ (some (.ofText source')) := by
  have hagree : Agree (Leaves.toHost src (byteSize source)) (Leaves.toHost src (byteSize source')) :=
    ⟨fun _ => rfl, fun _ => rfl⟩
  rcases Shape.ofModule_of_agree hagree is s t with ⟨css, ps, helper, h, h'⟩ | ⟨e, h, h'⟩
  · have hentries : (ps.map (·.map (Leaves.toHost src (byteSize source)))).mapM
          (Fragments.propertyText (some (.ofText source))) =
        (ps.map (·.map (Leaves.toHost src (byteSize source')))).mapM
          (Fragments.propertyText (some (.ofText source'))) := by
      rw [List.mapM_map, List.mapM_map]
      exact congrArg (ps.mapM ·) (funext fun p => propertyText_of_isSuffix hsrc hsrc' p)
    have hshape :
        Fragments.ofShape (Shape.made (Leaves.toHost src (byteSize source)) css ps helper) (some (.ofText source)) =
        Fragments.ofShape (Shape.made (Leaves.toHost src (byteSize source')) css ps helper)
          (some (.ofText source')) := by
      unfold Fragments.ofShape
      simp only [Shape.made]
      rw [hentries]
      rfl
    simp only [lazySource, h, h', hshape]
  · rw [lazySource_of_ofModule_eq_error h, lazySource_of_ofModule_eq_error h']

end Texts

/-! ### Hosts -/

namespace Plugin

variable {code : String}

/-- A plugin does with a module below empty lines what it does with the module, but that faults are so many lines
further down. -/
theorem transform_belowLines (p : Plugin) (id : String) (k : Nat) (hmark : code.toList.head? ≠ some '\ufeff')
    (hshell : ¬ "#!".toList <+: code.toList) :
    (∀ a, p.transform code id = .ok a → p.transform (belowLines k code) id = .ok a) ∧
      ∀ e, p.transform code id = .error (.refused e) → p.transform (belowLines k code) id =
        .error (.refused { e with position := ⟨e.position.line + k, e.position.column⟩ }) := by
  cases hid : p.filter.accepts id with
  | false =>
    have hskipped : ∀ c : String, p.transform c id = .ok ⟨none, [.skipped]⟩ := fun _ =>
      transform_of_accepts_eq_false hid
    rw [hskipped, hskipped]
    exact ⟨fun a ha => ha, nofun⟩
  | true =>
    rw [← sourceOf_eq hmark] at hshell
    rw [transform_of_accepts hid, transform_of_accepts hid]
    -- Both texts have the same body; only what is counted in the whole of their sources differs.
    have hbody := bodyOf_belowLines k hmark
    cases hread : readItems (bodyOf (sourceOf code)) true false with
    | error i =>
      rw [parseModule_of_error rfl hshell hread, parseModule_belowLines_of_error k hmark hshell hread]
      refine ⟨nofun, fun e he => ?_⟩
      obtain rfl := Failure.refused.inj (Except.error.inj he)
      rfl
    | ok r =>
      obtain ⟨s, hs⟩ := exists_parseModule_of_ok rfl hshell hread id
      obtain ⟨t, ht⟩ := exists_parseModule_of_ok hbody (not_prefix_belowLines k hmark hshell) hread id
      have hsrc : bodyOf (sourceOf code) <:+ sourceOf code := List.dropWhile_suffix _
      have hsrc' : bodyOf (sourceOf code) <:+ sourceOf (belowLines k code) := by
        rw [← hbody]
        exact List.dropWhile_suffix _
      rw [hs, ht]
      dsimp only
      rw [lazySource_of_isSuffix hsrc hsrc' r.items s t]
      refine ⟨fun a ha => ha, fun e he => ?_⟩
      -- What is decided about a module is no fault.
      split at he <;> cases he

/-- A generated module three lines further down, and a module without a stylesheet two lines further down. -/
theorem transform_belowLines_mixedText :
    (⟨.all⟩ : Plugin).transform (belowLines 3 mixedText) "a.css" = .ok ⟨some mixedFragments.render, [.deferred]⟩ ∧
      (⟨.all⟩ : Plugin).transform (belowLines 2 "var css = ;") "a.css" =
        .error (.refused ⟨"a.css", ⟨3, 11⟩, .expressionExpected⟩) := by
  have hfault : (⟨.all⟩ : Plugin).transform "var css = ;" "a.css" =
      .error (.refused ⟨"a.css", ⟨1, 11⟩, .expressionExpected⟩) := by
    apply transform_of_parseModule_eq_error (by decide)
    rw [← map_eq_error_iff (f := fun _ => ())]
    decide +kernel
  constructor
  · exact (transform_belowLines _ _ 3 (by decide +kernel) (by decide +kernel)).1 _ transform_mixedText
  · exact (transform_belowLines _ _ 2 (by decide) (by decide)).2 _ hfault

end Plugin

end LazyStyles
