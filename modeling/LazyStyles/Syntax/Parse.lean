import LazyStyles.Syntax.Read
import LazyStyles.Syntax.Host

/-!
# Parsing

From the text of a module or script to its tree in a host's form (`parse`), or to the fault that it is
refused for, with the line and the column (`ParseError.message`).  Blanks in front of the first token are
passed over before anything is read, so they move positions and change nothing else.
-/

namespace LazyStyles.Syntax

/-- Why and where a text is refused. -/
structure ParseError where
  id : String
  position : Position
  fault : Fault
deriving DecidableEq, Repr

/-- The wording of an error. -/
def ParseError.message (e : ParseError) : String :=
  "failed to parse " ++ e.id ++ ":" ++ toString e.position.line ++ ":" ++ toString e.position.column ++
    ": " ++ e.fault.message

/-- The source in a text: all of it but a byte order mark in front. -/
def sourceOf (code : String) : List Char :=
  match code.toList with
  | '\ufeff' :: s => s
  | s => s

/-- The part of a source that is read. -/
def bodyOf (source : List Char) : List Char :=
  source.dropWhile Text.isSpace

/-- Reads a text as a module, or as a script. -/
def parse (isModule : Bool) (code id : String) : Except ParseError HostModule :=
  let source := sourceOf code
  let src := bodyOf source
  match readItems src isModule (source.head? == some '#') with
  | .error i => .error ⟨id, positionOf source i.place.rest, i.fault⟩
  | .ok r =>
    let size := byteSize source
    let span := match r.extent? with
      | some e => e.bytes size
      | none => ⟨0, 0⟩
    .ok ⟨some span, r.items.map (·.map (Leaves.toHost src size))⟩

/-- Reads a text as a module. -/
def parseModule (code id : String) : Except ParseError HostModule :=
  parse true code id

end LazyStyles.Syntax
