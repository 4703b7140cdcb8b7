import LazyStyles.Plugin
import LazyStyles.Proofs.Source.Pieces

/-!
# The decision about a module

Whether a module gets a lazy one in its place hangs on its pieces and their texts (`exists_decision`).  For a
module that has just been parsed the texts are always there, so the source map does not panic either, and the lazy
module is parsed as the five statements around the same pieces (`exists_lazySource_of_ofModule`).  Those five are
never taken for a generated module again (`ofModule_of_withoutSpans_items`).
-/

namespace LazyStyles

open Syntax

variable {m n : HostModule} {known : Option SourceMap} {text code id : String} {shape pieces : Shape}

/-! ### The four outcomes -/

theorem lazySource_of_ofModule_eq_error {e : Mismatch} (h : Shape.ofModule m = .error e) :
    lazySource m known = .error (.kept (.notGenerated e)) := by
  rw [lazySource, h]

theorem lazySource_of_ofShape_eq_missing (h : Shape.ofModule m = .ok shape)
    (hmissing : Fragments.ofShape shape known = .error .missing) :
    lazySource m known = .error (.kept .withoutText) := by
  simp only [lazySource, h, hmissing]

theorem lazySource_of_ofShape_eq_panic (h : Shape.ofModule m = .ok shape)
    (hpanic : Fragments.ofShape shape known = .error .panic) : lazySource m known = .error .panicked := by
  simp only [lazySource, h, hpanic]

theorem lazySource_of_ofShape_eq_ok {f : Fragments} (h : Shape.ofModule m = .ok shape)
    (hf : Fragments.ofShape shape known = .ok f) : lazySource m known = .ok f.render := by
  simp only [lazySource, h, hf]

/-- What the decision hangs on. -/
inductive Decision (m : HostModule) (known : Option SourceMap) : Except Refusal String → Prop
  | notGenerated {e : Mismatch} (h : Shape.ofModule m = .error e) : Decision m known (.error (.kept (.notGenerated e)))
  | withoutText {shape : Shape} (h : Shape.ofModule m = .ok shape)
    (hmissing : Fragments.ofShape shape known = .error .missing) : Decision m known (.error (.kept .withoutText))
  | panicked {shape : Shape} (h : Shape.ofModule m = .ok shape)
    (hpanic : Fragments.ofShape shape known = .error .panic) : Decision m known (.error .panicked)
  | deferred {shape : Shape} {f : Fragments} (h : Shape.ofModule m = .ok shape)
    (hf : Fragments.ofShape shape known = .ok f) : Decision m known (.ok f.render)

theorem exists_decision (m : HostModule) (known : Option SourceMap) :
    ∃ r, lazySource m known = r ∧ Decision m known r := by
  cases hshape : Shape.ofModule m with
  | error e => exact ⟨_, lazySource_of_ofModule_eq_error hshape, .notGenerated hshape⟩
  | ok shape =>
    cases hf : Fragments.ofShape shape known with
    | ok f => exact ⟨_, lazySource_of_ofShape_eq_ok hshape hf, .deferred hshape hf⟩
    | error e =>
      cases e with
      | missing => exact ⟨_, lazySource_of_ofShape_eq_missing hshape hf, .withoutText hshape hf⟩
      | panic => exact ⟨_, lazySource_of_ofShape_eq_panic hshape hf, .panicked hshape hf⟩

/-- A lazy module is made of the texts of the pieces, where the module is a generated one and all of them have
a text. -/
theorem lazySource_eq_ok_iff :
    lazySource m known = .ok text ↔
      ∃ shape f, Shape.ofModule m = .ok shape ∧ Fragments.ofShape shape known = .ok f ∧ f.render = text := by
  constructor
  · obtain ⟨r, hr, h⟩ := exists_decision m known
    rw [hr]
    rintro rfl
    cases h with
    | deferred hshape hf => exact ⟨_, _, hshape, hf, rfl⟩
  · rintro ⟨shape, f, hshape, hf, rfl⟩
    exact lazySource_of_ofShape_eq_ok hshape hf

/-- All ends where the pieces are looked up and the source map panics. -/
theorem lazySource_eq_panicked_iff :
    lazySource m known = .error .panicked ↔
      ∃ shape, Shape.ofModule m = .ok shape ∧ Fragments.ofShape shape known = .error .panic := by
  constructor
  · obtain ⟨r, hr, h⟩ := exists_decision m known
    rw [hr]
    rintro rfl
    cases h with
    | panicked hshape hpanic => exact ⟨_, hshape, hpanic⟩
  · rintro ⟨shape, hshape, hpanic⟩
    exact lazySource_of_ofShape_eq_panic hshape hpanic

/-- The decision never has anything to do with the parser. -/
theorem lazySource_ne_unparsed (e : ParseError) : lazySource m known ≠ .error (.kept (.unparsed e)) := by
  obtain ⟨r, hr, h⟩ := exists_decision m known
  rw [hr]
  rintro rfl
  cases h

/-! ### Parsed modules -/

/-- A generated module that has just been parsed gets a lazy module in its place, with the same pieces.  Its
source need not be known if the class map gives no regular expression. -/
theorem exists_lazySource_of_ofModule (hm : parseModule code id = .ok m) (hshape : Shape.ofModule m = .ok shape)
    (hknown : known = none ∨ known = some (.ofText (sourceOf code)))
    (hregex : known = none → ∀ p ∈ shape.classMap, givesRegex p = false) :
    ∃ text, lazySource m known = .ok text ∧
      ∀ id', ∃ n, parseModule text id' = .ok n ∧ n.withoutSpans.items = lazyItems shape.withoutSpans := by
  obtain ⟨f, hf, s, hs⟩ := exists_spelt_of_ofModule hm hshape hknown hregex
  refine ⟨f.render, lazySource_of_ofShape_eq_ok hshape hf, fun id' => ?_⟩
  rw [← hs]
  exact exists_parseModule_render s id'

/-- What takes the place of a module that has just been parsed is parsed as the lazy module with its pieces. -/
theorem exists_of_lazySource (hm : parseModule code id = .ok m)
    (h : lazySource m (some (.ofText (sourceOf code))) = .ok text) :
    ∃ shape, Shape.ofModule m = .ok shape ∧
      ∀ id', ∃ n, parseModule text id' = .ok n ∧ n.withoutSpans.items = lazyItems shape.withoutSpans := by
  obtain ⟨shape, f, hshape, -, -⟩ := lazySource_eq_ok_iff.mp h
  obtain ⟨text', htext, hparse⟩ := exists_lazySource_of_ofModule hm hshape (.inr rfl) nofun
  obtain rfl := Except.ok.inj (h.symm.trans htext)
  exact ⟨shape, hshape, hparse⟩

/-- At the spans of a module that has just been parsed its source map has all the texts. -/
theorem lazySource_ne_panicked (hm : parseModule code id = .ok m) :
    lazySource m (some (.ofText (sourceOf code))) ≠ .error .panicked := by
  intro h
  obtain ⟨shape, hshape, -⟩ := lazySource_eq_panicked_iff.mp h
  obtain ⟨text, htext, -⟩ := exists_lazySource_of_ofModule hm hshape (.inr rfl) nofun
  cases h.symm.trans htext

/-! ### Lazy modules -/

/-- A lazy module has five statements, one too many. -/
theorem ofModule_of_withoutSpans_items (h : n.withoutSpans.items = lazyItems pieces) :
    Shape.ofModule n = .error (.statementCount 5) := by
  have hlength : n.items.length = 5 := by
    have hmap : (n.items.map (·.map Leaves.withoutSpans)).length = 5 := congrArg List.length h
    rwa [List.length_map] at hmap
  unfold Shape.ofModule
  split
  case h_1 a b c d hitems =>
    rw [hitems] at hlength
    exact absurd hlength (by simp)
  case h_2 => rw [hlength]

/-- A lazy module gets no other in its place. -/
theorem lazySource_of_withoutSpans_items (h : n.withoutSpans.items = lazyItems pieces) :
    lazySource n known = .error (.kept (.notGenerated (.statementCount 5))) :=
  lazySource_of_ofModule_eq_error (ofModule_of_withoutSpans_items h)

end LazyStyles
