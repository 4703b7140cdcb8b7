import Mathlib.Tactic.SplitIfs
import LazyStyles.Syntax.Parse
import LazyStyles.Proofs.Steps

/-!
# Lines and columns

A place is shown by the line and the column that are reached by reading up to it, character by character.  These are
here computed from the text at once (`positionWith`): the line is told by how many lines start after line breaks, and
the column by how wide the text is from where the last of them starts (`advance_eq_positionWith`).  A fault is shown
at a place of the source in this way (`parseModule_positionWith`).

Where breaks end and where lines start is not the same at one place: a break that ends the source starts no line
(`lineStarts`).
-/

namespace LazyStyles.Syntax

variable {s : List Char} {n : Nat} {p : Position} {code id : String} {e : ParseError}

/-! ### Lines -/

/-- Whether some line break of the text, which is a line feed, a carriage return or both, ends after `n`
characters. -/
def endsBreak (s : List Char) : (n : Nat) → Bool
  | 0 => false
  | n + 1 => s[n]? == some '\n' || (s[n]? == some '\r' && s[n + 1]? != some '\n')

/-- Where the line breaks end that have ended after `n` characters. -/
def breakEnds (s : List Char) (n : Nat) : List Nat :=
  (List.range (n + 1)).filter (endsBreak s)

/-- Where the lines start, but the first, that have started after `n` characters: where breaks end, unless nothing
follows. -/
def lineStarts (s : List Char) (n : Nat) : List Nat :=
  (breakEnds s n).filter (· < s.length)

/-- The number of columns of a text, given those of a character. -/
def columns (width : Char → Nat) : List Char → Nat
  | [] => 0
  | c :: s => width c + columns width s

/-- The position after `n` characters of the text, if lines start at `starts` and at the front. -/
def positionWith (starts : List Nat) (width : Char → Nat) (s : List Char) (n : Nat) : Position :=
  ⟨1 + starts.length, 1 + columns width ((s.take n).drop (starts.getLast?.getD 0))⟩

theorem columns_congr {v w : Char → Nat} (h : ∀ c ∈ s, v c = w c) : columns v s = columns w s := by
  induction s with
  | nil => rfl
  | cons c s ih =>
    obtain ⟨hc, hs⟩ := List.forall_mem_cons.mp h
    rw [columns, columns, hc, ih hs]

/-- Whether a line, but the first, starts after `n` characters. -/
def isLineStart (s : List Char) (n : Nat) : Bool :=
  endsBreak s n && decide (n < s.length)

theorem lineStarts_eq (s : List Char) (n : Nat) : lineStarts s n = (List.range (n + 1)).filter (isLineStart s) := by
  rw [lineStarts, breakEnds, List.filter_filter]
  exact List.filter_congr fun i _ => Bool.and_comm _ _

theorem isLineStart_zero (s : List Char) : isLineStart s 0 = false := rfl

theorem isLineStart_cons_one (c : Char) (s : List Char) :
    isLineStart (c :: s) 1 = ((c == '\n' || (c == '\r' && s.head? != some '\n')) && !s.isEmpty) := by
  cases s <;> simp [isLineStart, endsBreak]

theorem isLineStart_cons (c : Char) (s : List Char) (n : Nat) :
    isLineStart (c :: s) (n + 2) = isLineStart s (n + 1) := by
  have hlength : decide (n + 2 < (c :: s).length) = decide (n + 1 < s.length) := by
    rw [decide_eq_decide, List.length_cons]
    omega
  rw [isLineStart, isLineStart, hlength]
  simp only [endsBreak, List.getElem?_cons_succ]

/-- In a text, lines start where they start behind its first character, and also right behind it if that breaks the
line. -/
theorem lineStarts_cons (c : Char) (s : List Char) (n : Nat) :
    lineStarts (c :: s) (n + 1) =
      (if isLineStart (c :: s) 1 = true then [1] else []) ++ (lineStarts s n).map (· + 1) := by
  have hrange : List.range (n + 2) = 0 :: 1 :: (List.range n).map (· + 2) := by
    rw [List.range_succ_eq_map, List.range_succ_eq_map, List.map_cons, List.map_map]
    rfl
  have hfilter : (List.range n).filter (isLineStart (c :: s) ∘ (· + 2)) =
      (List.range n).filter (isLineStart s ∘ Nat.succ) :=
    List.filter_congr fun i _ => isLineStart_cons c s i
  rw [lineStarts_eq, lineStarts_eq, hrange, List.range_succ_eq_map]
  simp only [List.filter_cons, isLineStart_zero, Bool.false_eq_true, if_false, List.filter_map, hfilter, List.map_map]
  split_ifs <;> rfl

theorem lineStarts_zero (s : List Char) : lineStarts s 0 = [] := rfl

theorem lineStarts_nil (n : Nat) : lineStarts [] n = [] := by
  rw [lineStarts, List.filter_eq_nil_iff]
  simp

/-! ### Reading up to a place -/

/-- Where reading starts moves the lines that are reached, and the columns until a line starts. -/
theorem advance_eq (p : Position) (n : Nat) (s : List Char) :
    p.advance n s =
      ⟨p.line + (lineStarts s n).length,
        ((lineStarts s n).getLast?.elim p.column fun _ => 1) +
          columns Text.width ((s.take n).drop ((lineStarts s n).getLast?.getD 0))⟩ := by
  induction n generalizing p s with
  | zero => simp [Position.advance, lineStarts_zero, columns]
  | succ n ih =>
    cases s with
    | nil => simp [Position.advance, lineStarts_nil, columns]
    | cons c s =>
      -- What has been reached behind the first character is where the rest is read from.
      rw [lineStarts_cons, isLineStart_cons_one, Position.advance, ih, ih, List.take_succ_cons]
      split_ifs with hbreak
      · have hlast : ([1] ++ (lineStarts s n).map (· + 1)).getLast? = some ((lineStarts s n).getLast?.getD 0 + 1) := by
          rw [List.singleton_append, List.getLast?_cons, List.getLast?_map]
          cases (lineStarts s n).getLast? <;> rfl
        have hlength : p.line + 1 + (lineStarts s n).length =
            p.line + ([1] ++ (lineStarts s n).map (· + 1)).length := by
          rw [List.length_append, List.length_singleton, List.length_map, Nat.add_assoc]
        rw [hlast, hlength]
        cases (lineStarts s n).getLast? <;> rfl
      · rw [List.nil_append, List.getLast?_map, List.length_map]
        cases (lineStarts s n).getLast? with
        | none =>
          simp only [Option.elim_none, Option.getD_none, Option.map_none, List.drop_zero, columns, Nat.add_assoc]
        | some i => rfl

theorem advance_eq_positionWith (s : List Char) (n : Nat) :
    Position.advance ⟨1, 1⟩ n s = positionWith (lineStarts s n) Text.width s n := by
  rw [advance_eq]
  cases h : (lineStarts s n).getLast? <;> simp [positionWith, h]

/-! ### Faults -/

/-- Whether `p` is the position of the place in the source with `o` bytes in front of it, if lines start at `starts` and
characters are as wide as `width` tells. -/
def IsPositionOf (starts : (source : List Char) → (n : Nat) → List Nat) (width : Char → Nat) (source : List Char)
    (o : Nat) (p : Position) : Prop :=
  ∃ before after, source = before ++ after ∧ byteSize before = o ∧
    p = positionWith (starts source before.length) width source before.length

theorem positionOf_append (before after : List Char) :
    positionOf (before ++ after) after =
      positionWith (lineStarts (before ++ after) before.length) Text.width (before ++ after) before.length := by
  rw [positionOf, List.length_append, Nat.add_sub_cancel, advance_eq_positionWith]

/-- A text is refused for a fault that was found in reading its body, at the position of the fault. -/
theorem parse_eq_error_iff {isModule : Bool} :
    parse isModule code id = .error e ↔
      ∃ i, readItems (bodyOf (sourceOf code)) isModule ((sourceOf code).head? == some '#') = .error i ∧
        ⟨id, positionOf (sourceOf code) i.place.rest, i.fault⟩ = e := by
  simp only [parse]
  cases readItems (bodyOf (sourceOf code)) isModule ((sourceOf code).head? == some '#') with
  | error i => simp
  | ok r => simp

/-- Up to a place behind which something follows, lines start where breaks end. -/
theorem lineStarts_eq_breakEnds (h : n < s.length ∨ endsBreak s s.length = false) (hn : n ≤ s.length) :
    lineStarts s n = breakEnds s n := by
  rw [lineStarts, List.filter_eq_self]
  intro i hi
  obtain ⟨hrange, hends⟩ := List.mem_filter.mp hi
  have hle : i ≤ n := Nat.lt_succ_iff.mp (List.mem_range.mp hrange)
  rw [decide_eq_true_iff]
  rcases h with h | h
  · omega
  · -- The place behind all of the text, where no break ends, is not among those listed.
    have hne : i ≠ s.length := by
      rintro rfl
      rw [h] at hends
      cases hends
    omega

/-- A place is shown by the lines that have started there and by the width of the text since.  Unless a break ends
the source there, these are the lines behind the breaks that have ended; and unless characters take two units in
UTF-16, the width is that of the glyphs. -/
theorem exists_isPositionOf {source rest : List Char} (h : rest <:+ source) :
    ∃ o ≤ byteSize source, IsPositionOf lineStarts Text.width source o (positionOf source rest) ∧
      (o < byteSize source ∨ endsBreak source source.length = false → (∀ c ∈ source, c.toNat < 0x10000) →
        IsPositionOf breakEnds Text.glyphWidth source o (positionOf source rest)) := by
  obtain ⟨before, rfl⟩ := h
  have hposition := positionOf_append before rest
  have hsize : byteSize (before ++ rest) = byteSize before + byteSize rest := byteSize_append before rest
  have hlength : (before ++ rest).length = before.length + rest.length := List.length_append
  refine ⟨byteSize before, by omega, ⟨before, rest, rfl, rfl, hposition⟩, ?_⟩
  intro hbreak hunits
  have hstarts : lineStarts (before ++ rest) before.length = breakEnds (before ++ rest) before.length := by
    refine lineStarts_eq_breakEnds (hbreak.imp_left fun h => ?_) (by omega)
    have hpos : 0 < rest.length := by
      refine List.length_pos_of_ne_nil ?_
      rintro rfl
      rw [byteSize_nil] at hsize
      omega
    omega
  refine ⟨before, rest, rfl, rfl, hposition.trans ?_⟩
  rw [hstarts, positionWith, positionWith]
  refine congrArg _ (congrArg _ (columns_congr fun c hc => if_pos (hunits c ?_)))
  exact List.mem_of_mem_take (List.mem_of_mem_drop hc)

/-- A position that is not reached after any number of characters is not that of a place. -/
theorem not_isPositionOf {starts : List Char → Nat → List Nat} {width : Char → Nat}
    (h : ∀ n ≤ s.length, positionWith (starts s n) width s n ≠ p) : ¬ ∃ o, IsPositionOf starts width s o p := by
  rintro ⟨o, before, after, hs, -, hp⟩
  have hle : before.length ≤ s.length := by
    rw [hs, List.length_append]
    omega
  exact h before.length hle hp.symm

/-- A module that is refused is refused at a place of its source, which is shown by the line that has started there and
the width of the text since. -/
theorem parseModule_positionWith (h : parseModule code id = .error e) :
    e.id = id ∧ ∃ o ≤ byteSize (sourceOf code),
      IsPositionOf lineStarts Text.width (sourceOf code) o e.position ∧
        (o < byteSize (sourceOf code) ∨ endsBreak (sourceOf code) (sourceOf code).length = false →
          (∀ c ∈ sourceOf code, c.toNat < 0x10000) →
            IsPositionOf breakEnds Text.glyphWidth (sourceOf code) o e.position) := by
  obtain ⟨i, -, rfl⟩ := parse_eq_error_iff.mp h
  exact ⟨rfl, exists_isPositionOf (i.place.isSuffix.trans (List.dropWhile_suffix _))⟩

/-- Behind a tab and a wide character, in the second line. -/
theorem parseModule_positionWith_secondLine :
    parseModule "a;\r\n\t'日' )" "a.css" = .error ⟨"a.css", ⟨2, 10⟩, .expectedStatementEnd⟩ ∧
      ∃ o ≤ byteSize (sourceOf "a;\r\n\t'日' )"),
        IsPositionOf breakEnds Text.glyphWidth (sourceOf "a;\r\n\t'日' )") o ⟨2, 10⟩ := by
  have h : parseModule "a;\r\n\t'日' )" "a.css" = .error ⟨"a.css", ⟨2, 10⟩, .expectedStatementEnd⟩ := by
    rw [← map_eq_error_iff (f := fun _ => ())]
    decide +kernel
  have hunits : ((sourceOf "a;\r\n\t'日' )").all fun c => decide (c.toNat < 0x10000)) = true := by decide +kernel
  obtain ⟨-, o, ho, -, hplain⟩ := parseModule_positionWith h
  refine ⟨h, o, ho, hplain (.inr (by decide +kernel)) fun c hc => ?_⟩
  exact of_decide_eq_true (List.all_eq_true.mp hunits c hc)

/-- A break that ends the source and characters of two units lead to columns that no place has if lines start where
breaks end and characters are as wide as their glyphs. -/
theorem parseModule_not_isPositionOf_breakEnds :
    (parseModule "(\n" "m.js" = .error ⟨"m.js", ⟨1, 3⟩, .unexpectedEnd⟩ ∧
      ¬ ∃ o, IsPositionOf breakEnds Text.glyphWidth (sourceOf "(\n") o ⟨1, 3⟩) ∧
        parseModule "'😀😀' )" "m.js" = .error ⟨"m.js", ⟨1, 10⟩, .expectedStatementEnd⟩ ∧
          ¬ ∃ o, IsPositionOf breakEnds Text.glyphWidth (sourceOf "'😀😀' )") o ⟨1, 10⟩ := by
  refine ⟨⟨?_, not_isPositionOf (by decide +kernel)⟩, ?_, not_isPositionOf (by decide +kernel)⟩
  · rw [← map_eq_error_iff (f := fun _ => ())]
    decide +kernel
  · rw [← map_eq_error_iff (f := fun _ => ())]
    decide +kernel

end LazyStyles.Syntax
