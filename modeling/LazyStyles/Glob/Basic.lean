/-!
# Globs

The pieces of a glob, in which `*` and `?` do not cross a separator, and the faults of a pattern.
-/

namespace LazyStyles

namespace Glob

/-- A piece of a glob. -/
inductive Token where
  /-- The character itself. -/
  | literal (c : Char)
  /-- One byte that is no separator. -/
  | any
  /-- Bytes that are no separators. -/
  | star
  /-- `**` at the front: nothing, or bytes up to and with a separator. -/
  | leading
  /-- A separator, `**` and a separator: one separator, or two with bytes between them. -/
  | between
  /-- A separator and `**` at the end: a separator and any bytes. -/
  | trailing
  /-- One byte of the ranges, or none of them if negated. -/
  | charClass (negated : Bool) (ranges : List (Char × Char))
  /-- One of the branches. -/
  | alternates (branches : List (List Token))
deriving Inhabited

/-- Why a pattern is not a glob. -/
inductive Fault where
  | unclosedClass
  | invalidRange (low high : Char)
  | unopenedAlternates
  | unclosedAlternates
deriving DecidableEq, Repr

/-- The wording of a fault. -/
def Fault.message : Fault → String
  | unclosedClass => "unclosed character class; missing ']'"
  | invalidRange a b => "invalid range; '" ++ a.toString ++ "' > '" ++ b.toString ++ "'"
  | unopenedAlternates =>
    "unopened alternate group; missing '\x7b' (maybe escape '\x7d' with '[\x7d]'?)"
  | unclosedAlternates =>
    "unclosed alternate group; missing '\x7d' (maybe escape '\x7b' with '[\x7b]'?)"

end Glob

/-- A glob: its pattern and the pieces that this is read as. -/
structure Glob where
  pattern : String
  tokens : List Glob.Token

end LazyStyles
