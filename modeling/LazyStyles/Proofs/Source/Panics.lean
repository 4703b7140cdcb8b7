import LazyStyles.Proofs.Module.Generated
import LazyStyles.Proofs.Source.Extraction

/-!
# Where source maps panic

The pieces of a generated module are made of its parts (`Shape.parts_subset`), so a source map that panics when they are
looked up does so at a span of the module (`Fragments.Panics.exists_mem_spans`).  The map of a source does not do so at
a span that parts no character (`Fragments.not_panicsAt_of_isWhole`).
-/

namespace LazyStyles

open Syntax

variable {known : Option SourceMap} {m : HostModule} {shape : Shape} {source : List Char}

/-! ### Parts of pieces -/

section Parts

variable {L : Leaves} {name : L.Ident → String} {value : L.Str → String} {is : List (Item L)} {css helper : L.Str}
  {e : Expr L} {o : L.Span} {ps : List (Property L)}

theorem parts_withoutParentheses_subset (e : Expr L) : (withoutParentheses e).parts ⊆ e.parts := by
  fun_induction withoutParentheses e with
  | case1 s e ih => exact List.subset_cons_of_subset _ ih
  | case2 e _ => exact List.Subset.refl _

theorem flatMap_parts_subset (h : withoutParentheses e = .object o ps) : ps.flatMap (·.parts) ⊆ e.parts := by
  have hsubset := parts_withoutParentheses_subset e
  rw [h, Expr.parts, Property.partsAll_eq_flatMap] at hsubset
  exact fun part hpart => hsubset (List.mem_cons_of_mem _ hpart)

/-- The pieces of a generated module are made of parts of its statements. -/
theorem IsGenerated.parts_subset (h : IsGenerated name value is css ps helper) :
    .str css :: .str helper :: ps.flatMap (·.parts) ⊆ is.flatMap (·.parts) := by
  obtain ⟨-, -, hobject, -, -, -, -⟩ := h
  simp only [List.cons_subset]
  refine ⟨?_, ?_, ?_⟩
  · simp [Item.parts, Statement.parts, Declarator.partsAll, Declarator.parts, Expr.partsOption, Expr.parts,
      Literal.parts]
  · simp [Item.parts, Import.parts]
  · intro part hpart
    have hexport := flatMap_parts_subset hobject hpart
    simp [Item.parts, hexport]

end Parts

/-- The leaves of the pieces. -/
def Shape.parts (s : Shape) : List (Part Leaves.host) :=
  .str s.css :: .str s.helper :: s.classMap.flatMap (·.parts)

theorem Shape.parts_subset (h : Shape.ofModule m = .ok shape) : shape.parts ⊆ m.parts :=
  List.subset_cons_of_subset _ (Shape.ofModule_eq_ok_iff.mp h).parts_subset

namespace Fragments

theorem KeyPanics.exists_part {k : Key Leaves.host} (h : KeyPanics known k) :
    ∃ part ∈ k.parts, PanicsAt known part.span? := by
  cases h with
  | ident h => exact ⟨_, List.mem_singleton_self _, h⟩
  | str h | numeral h => exact ⟨_, List.mem_singleton_self _, h.2⟩

theorem LiteralPanics.exists_part {l : Literal Leaves.host} (h : LiteralPanics known l) :
    ∃ part ∈ l.parts, PanicsAt known part.span? := by
  cases h with
  | regex h => exact ⟨_, List.mem_singleton_self _, h⟩
  | str h | numeral h => exact ⟨_, List.mem_singleton_self _, h.2⟩

theorem EntryPanics.exists_part {p : Property Leaves.host} (h : EntryPanics known p) :
    ∃ part ∈ p.parts, PanicsAt known part.span? := by
  cases h with
  | key h =>
    obtain ⟨part, hpart, h⟩ := h.exists_part
    exact ⟨part, List.mem_append_left _ hpart, h⟩
  | value _ h =>
    obtain ⟨part, hpart, h⟩ := h.exists_part
    exact ⟨part, List.mem_append_right _ hpart, h⟩

/-- A source map that panics at a piece does so at the span of a leaf of the pieces. -/
theorem Panics.exists_part (h : Panics known shape) : ∃ part ∈ shape.parts, PanicsAt known part.span? := by
  rcases h with h | ⟨-, h⟩ | ⟨-, -, hmap, -, h⟩
  · exact ⟨_, List.mem_cons_self, h.2⟩
  · exact ⟨_, List.mem_cons_of_mem _ List.mem_cons_self, h.2⟩
  · obtain ⟨part, hpart, h⟩ := h.exists_part
    refine ⟨part, ?_, h⟩
    simp only [Shape.parts, hmap, List.mem_cons, List.mem_flatMap]
    exact .inr (.inr ⟨_, List.mem_append_right _ List.mem_cons_self, hpart⟩)

/-! ### Spans of modules -/

/-- A source map that panics at a piece of a module does so at a span of the module. -/
theorem Panics.exists_mem_spans (h : Panics known shape) (hshape : Shape.ofModule m = .ok shape) :
    ∃ s ∈ m.spans, PanicsAt known (some s) := by
  obtain ⟨part, hpart, texts, s, rfl, hs, hpanic⟩ := h.exists_part
  exact ⟨s, List.mem_filterMap.mpr ⟨part, Shape.parts_subset hshape hpart, hs⟩, texts, s, rfl, rfl, hpanic⟩

/-- The map of a source does not panic at a span that parts no character. -/
theorem not_panicsAt_of_isWhole {s : ByteSpan} (hlo : IsWhole source s.lo) (hhi : IsWhole source s.hi) :
    ¬ PanicsAt (some (.ofText source)) (some s) := by
  rintro ⟨_, _, ⟨⟩, ⟨⟩, hpanic⟩
  obtain ⟨-, -, hparted⟩ := SourceMap.ofText_eq_panic_iff.mp hpanic
  exact hparted ⟨hlo, hhi⟩

end Fragments

end LazyStyles
