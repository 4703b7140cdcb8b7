import LazyStyles.Text.Bytes
import LazyStyles.Text.Class

/-!
# Places in a source

A place in a source text is what is left of the text there, so that reading on needs no index and a
place can never lie outside its source (`Place.isSuffix`).  Lines and columns (`positionOf`) and byte
offsets (`byteSize`) are computed from a place only when they are shown.
-/

namespace LazyStyles.Syntax

/-- A place in `src`. -/
structure Place (src : List Char) where
  /-- The characters from the place on. -/
  rest : List Char
  isSuffix : rest <:+ src

variable {src : List Char}

namespace Place

instance : Inhabited (Place src) := ⟨⟨src, List.suffix_refl src⟩⟩

/-- The start of the source. -/
def first : Place src := ⟨src, List.suffix_refl src⟩

/-- The end of the source. -/
def last : Place src := ⟨[], List.nil_suffix⟩

/-- The place `n` characters on. -/
def advance (p : Place src) (n : Nat) : Place src :=
  ⟨p.rest.drop n, (List.drop_suffix n p.rest).trans p.isSuffix⟩

@[simp] theorem advance_rest (p : Place src) (n : Nat) : (p.advance n).rest = p.rest.drop n := rfl

@[simp] theorem advance_zero (p : Place src) : p.advance 0 = p := rfl

/-- The characters of the source before the place. -/
def before (p : Place src) : List Char :=
  src.take (src.length - p.rest.length)

end Place

/-- The part of `src` between two places. -/
structure Extent (src : List Char) where
  start : Place src
  stop : Place src

namespace Extent

/-- The characters of the extent. -/
def chars (e : Extent src) : List Char :=
  e.start.rest.take (e.start.rest.length - e.stop.rest.length)

end Extent

/-! ### Lines and columns -/

/-- A line and a column, both counted from one. -/
structure Position where
  line : Nat
  column : Nat
deriving DecidableEq, Repr

/-- The position that is reached from `p` by reading `n` characters of `text`.  A break at the very end of
the text starts no line; it is counted as columns of its line. -/
def Position.advance (p : Position) : (n : Nat) → (text : List Char) → Position
  | 0, _ => p
  | _ + 1, [] => p
  | n + 1, c :: s =>
    let breaks := c == '\n' || (c == '\r' && s.head? != some '\n')
    if breaks && !s.isEmpty then Position.advance ⟨p.line + 1, 1⟩ n s
    else Position.advance ⟨p.line, p.column + Text.width c⟩ n s

/-- The position in `source` at which `rest` is left. -/
def positionOf (source rest : List Char) : Position :=
  Position.advance ⟨1, 1⟩ (source.length - rest.length) source

end LazyStyles.Syntax
