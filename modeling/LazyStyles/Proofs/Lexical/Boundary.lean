import LazyStyles.Syntax.Token
import Mathlib.Data.List.TakeWhile

/-!
# Boundaries of lexemes

What may stand behind a word, a number or the flags of a regular expression without becoming part of it
(`IsBoundary`).  The digits and letters that numbers are made of all continue an identifier
(`continuesIdentifier_of_isDigitIn`), so that one condition serves all three.
-/

namespace LazyStyles.Syntax

open Text

/-- Whether nothing in front of `s` goes on with the front of `s`: there is no character of an identifier,
no escape and no decimal point. -/
def IsBoundary (s : List Char) : Prop :=
  ∀ c ∈ s.head?, continuesIdentifier c = false ∧ c ≠ '\\' ∧ c ≠ '.'

theorem isBoundary_nil : IsBoundary [] := by
  simp [IsBoundary]

theorem isBoundary_cons {c : Char} {s : List Char} :
    IsBoundary (c :: s) ↔ continuesIdentifier c = false ∧ c ≠ '\\' ∧ c ≠ '.' := by
  simp [IsBoundary]

instance : (s : List Char) → Decidable (IsBoundary s)
  | [] => .isTrue isBoundary_nil
  | _ :: _ => decidable_of_iff' _ isBoundary_cons

/-- Whether `scan` reads `v` from `cs`, whatever stands behind as long as it is a boundary. -/
def IsSpelling {α : Type} (scan : Scanner α) (cs : List Char) (v : α) : Prop :=
  ∀ rest, IsBoundary rest → scan (cs ++ rest) = .ok ⟨v, cs.length, []⟩

/-- A result of two steps comes from a result of the first. -/
theorem exists_of_bind_eq_ok {ε α β : Type} {x : Except ε α} {f : α → Except ε β} {b : β}
    (h : x >>= f = .ok b) : ∃ a, x = .ok a ∧ f a = .ok b := by
  cases x with
  | error e => exact absurd h nofun
  | ok a => exact ⟨a, rfl, h⟩

/-- Where a condition that is a flaw otherwise leaves none, it holds. -/
theorem of_flaws_eq_nil {b : Bool} {f : Flaw} {fs : List Flaw}
    (h : (if b then [] else [f]) ++ fs = []) : b = true ∧ fs = [] := by
  cases b with
  | true => exact ⟨rfl, h⟩
  | false => exact absurd h (List.cons_ne_nil _ _)

/-! ### Character classes -/

theorem continuesIdentifier_of_opensIdentifier {c : Char} (h : opensIdentifier c = true) :
    continuesIdentifier c = true := by
  unfold opensIdentifier at h
  unfold continuesIdentifier
  split_ifs at h ⊢ with hc
  · simp only [Bool.or_eq_true] at h
    rcases h with (h | h) | h <;> simp [Char.isAlphanum, h]
  · simp [h]

theorem opensIdentifier_eq_false {c : Char} (h : continuesIdentifier c = false) :
    opensIdentifier c = false := by
  by_contra ho
  rw [Bool.not_eq_false] at ho
  rw [continuesIdentifier_of_opensIdentifier ho] at h
  exact absurd h (by decide)

/-- The code points of the characters that may stand between tokens. -/
def spaceCodes : List Nat :=
  List.range' 0x09 5 ++ (List.range' 0x2000 11 ++
    [0x20, 0x85, 0xa0, 0x1680, 0x2028, 0x2029, 0x202f, 0x205f, 0x3000, 0xfeff])

theorem toNat_mem_spaceCodes {c : Char} (h : isSpace c = true) : c.toNat ∈ spaceCodes := by
  simp only [isSpace, isBlank, Bool.or_eq_true, beq_iff_eq, Bool.and_eq_true, decide_eq_true_eq] at h
  rcases h with ((((((((((rfl | hascii) | rfl) | rfl) | rfl) | hquad) | rfl) | rfl) | rfl) | rfl) | rfl) | rfl
  · decide
  · exact List.mem_append_left _ (List.mem_range'_1.mpr ⟨hascii.1, Nat.lt_succ_of_le hascii.2⟩)
  · decide
  · decide
  · decide
  · exact List.mem_append_right _
      (List.mem_append_left _ (List.mem_range'_1.mpr ⟨hquad.1, Nat.lt_succ_of_le hquad.2⟩))
  all_goals decide

theorem opensIdentifier_of_mem_spaceCodes : ∀ k ∈ spaceCodes, opensIdentifier (Char.ofNat k) = false := by
  decide +kernel

/-- No character that opens an identifier stands between tokens. -/
theorem isSpace_eq_false {c : Char} (h : opensIdentifier c = true) : isSpace c = false := by
  rw [Bool.eq_false_iff]
  intro hspace
  have hc := opensIdentifier_of_mem_spaceCodes _ (toNat_mem_spaceCodes hspace)
  rw [Char.ofNat_toNat, h] at hc
  exact Bool.false_ne_true hc.symm

theorem isWordChar_eq_false {c : Char} (h : continuesIdentifier c = false) (n : Nat) :
    isWordChar n c = false := by
  unfold isWordChar
  split_ifs
  · exact opensIdentifier_eq_false h
  · exact h

theorem isAlphanum_of_hexValue? {c : Char} (h : (Text.hexValue? c).isSome) :
    c.toNat < 128 ∧ c.isAlphanum = true := by
  have hrange (lo n : Nat)
      (hall : ∀ k ∈ List.range' lo n, (decide ((Char.ofNat k).toNat < 128) && (Char.ofNat k).isAlphanum) = true)
      (hlo : lo ≤ c.toNat) (hhi : c.toNat < lo + n) : c.toNat < 128 ∧ c.isAlphanum = true := by
    have hc := hall c.toNat (List.mem_range'_1.mpr ⟨hlo, hhi⟩)
    rwa [Char.ofNat_toNat, Bool.and_eq_true, decide_eq_true_eq] at hc
  unfold Text.hexValue? at h
  split_ifs at h with hdigit hlower hupper
  · exact hrange 0x30 10 (by decide) hdigit.1 (Nat.lt_succ_of_le hdigit.2)
  · exact hrange 0x61 6 (by decide) hlower.1 (Nat.lt_succ_of_le hlower.2)
  · exact hrange 0x41 6 (by decide) hupper.1 (Nat.lt_succ_of_le hupper.2)
  · exact absurd h Bool.false_ne_true

theorem continuesIdentifier_of_hexValue? {c : Char} (h : (Text.hexValue? c).isSome) :
    continuesIdentifier c = true := by
  obtain ⟨hc, ha⟩ := isAlphanum_of_hexValue? h
  simp [continuesIdentifier, hc, ha]

theorem continuesIdentifier_of_isDigitIn {b : Nat} {c : Char} (h : isDigitIn b c = true) :
    continuesIdentifier c = true := by
  unfold isDigitIn at h
  rw [Option.any_eq_true_iff_get] at h
  obtain ⟨hs, -⟩ := h
  exact continuesIdentifier_of_hexValue? hs

end LazyStyles.Syntax
