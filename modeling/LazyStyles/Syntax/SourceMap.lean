import LazyStyles.Syntax.Host

/-!
# Source maps

What a host knows of the sources of its trees: the text at each span (`SourceMap`).  A span need not have a text.  A
source map may also panic at a span, and then whatever has asked for the text comes to nothing: this is no answer that
could be acted on.  The map of one source (`SourceMap.ofText`) counts in bytes, and panics where these part a character.
-/

namespace LazyStyles.Syntax

/-- Why there is no text. -/
inductive NoText where
  /-- There is none to be had. -/
  | missing
  /-- The source map has panicked. -/
  | panic
deriving DecidableEq, Repr

/-- The text at each span, if there is one. -/
abbrev SourceMap := ByteSpan → Except NoText String

/-! ### One source -/

/-- What `s` holds after its first `n` bytes, if a character ends there. -/
def dropBytes? : Nat → List Char → Option (List Char)
  | 0, s => some s
  | _ + 1, [] => none
  | n + 1, c :: s => if c.utf8Size ≤ n + 1 then dropBytes? (n + 1 - c.utf8Size) s else none

/-- The first `n` bytes of `s`, if a character ends there. -/
def takeBytes? : Nat → List Char → Option (List Char)
  | 0, _ => some []
  | _ + 1, [] => none
  | n + 1, c :: s =>
    if c.utf8Size ≤ n + 1 then (takeBytes? (n + 1 - c.utf8Size) s).map (c :: ·) else none

/-- What a source holds between the bytes of a span, if these are its own and characters start and end
there. -/
def snippet? (source : List Char) (s : ByteSpan) : Option String :=
  if s.lo ≤ s.hi then
    ((dropBytes? s.lo source).bind (takeBytes? (s.hi - s.lo))).map String.ofList
  else none

/-- The source map of one source.  It panics at a span of its own bytes that starts or ends within a character. -/
def SourceMap.ofText (source : List Char) : SourceMap := fun s =>
  match snippet? source s with
  | some text => .ok text
  | none => .error (if s.lo ≤ s.hi ∧ s.hi ≤ byteSize source then .panic else .missing)

end LazyStyles.Syntax
