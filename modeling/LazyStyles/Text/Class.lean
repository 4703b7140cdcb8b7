import LazyStyles.Text.IdentifierTable
import LazyStyles.Text.WidthTable
import LazyStyles.Text.PrintableTable

/-!
# Character classes

Which characters are blank, break a line, open or continue an identifier, and how many columns a
character takes.  ASCII is decided directly; the rest is looked up in the range tables.
-/

namespace LazyStyles.Text

/-- Whether some range of `table` holds the code point of `c`. -/
def inRanges (table : List (Nat × Nat)) (c : Char) : Bool :=
  table.any fun r => r.1 ≤ c.toNat && c.toNat ≤ r.2

/-- The characters with the Unicode property `White_Space`. -/
def isBlank (c : Char) : Bool :=
  c == ' ' || ('\x09' ≤ c && c ≤ '\x0d') || c == '\u0085' || c == '\u00a0' || c == '\u1680' ||
    ('\u2000' ≤ c && c ≤ '\u200a') || c == '\u2028' || c == '\u2029' || c == '\u202f' ||
    c == '\u205f' || c == '\u3000'

/-- The line terminators of ECMAScript. -/
def isLineTerminator (c : Char) : Bool :=
  c == '\n' || c == '\r' || c == '\u2028' || c == '\u2029'

/-- What may stand between two tokens besides comments: white space, line terminators and the byte
order mark. -/
def isSpace (c : Char) : Bool :=
  isBlank c || c == '\ufeff'

/-- The characters that may open an identifier. -/
def opensIdentifier (c : Char) : Bool :=
  if c.toNat < 128 then c.isAlpha || c == '$' || c == '_' else inRanges idStart c

/-- The characters that may stand in an identifier after its first. -/
def continuesIdentifier (c : Char) : Bool :=
  if c.toNat < 128 then c.isAlphanum || c == '$' || c == '_'
  else inRanges idStart c || inRanges idContinue c

/-- The number of columns that `c` takes in a terminal line: four for a tab, none for another control
character, a combining mark or a zero width character, two for a wide character, else one.  A line
break that is counted at all counts as one column. -/
def glyphWidth (c : Char) : Nat :=
  if c.toNat < 128 then
    if c == '\t' then 4
    else if c == '\n' || c == '\r' then 1
    else if c.toNat < 32 || c.toNat = 127 then 0
    else 1
  else if inRanges zeroWidth c then 0
  else if inRanges doubleWidth c then 2
  else 1

/-- The number of columns by which positions after `c` are counted: those of its glyph, and one more for a
character that takes two units in UTF-16. -/
def width (c : Char) : Nat :=
  if c.toNat < 0x10000 then glyphWidth c else glyphWidth c + 1

/-- The value of a hexadecimal digit. -/
def hexValue? (c : Char) : Option Nat :=
  if '0' ≤ c ∧ c ≤ '9' then some (c.toNat - '0'.toNat)
  else if 'a' ≤ c ∧ c ≤ 'f' then some (c.toNat - 'a'.toNat + 10)
  else if 'A' ≤ c ∧ c ≤ 'F' then some (c.toNat - 'A'.toNat + 10)
  else none

end LazyStyles.Text
