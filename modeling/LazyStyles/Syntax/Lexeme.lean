import LazyStyles.Syntax.Fault
import LazyStyles.Syntax.Place

/-!
# Lexemes

A scanner reads one kind of lexeme from the front of a text: it tells the lexeme's value and its length, or
the fault that makes it none.  Flaws are faults that leave a lexeme readable; whoever reads a source decides
which of them count.  A `Lexeme` is a place where a scanner succeeds, with the reading it gives there, so
that what a tree says about its literals is true of the text by construction.
-/

namespace LazyStyles.Syntax

/-- A fault inside a lexeme, `offset` characters after its start. -/
structure Flaw where
  offset : Nat
  fault : Fault
deriving DecidableEq, Repr

/-- What a scanner reads. -/
structure Reading (α : Type) where
  value : α
  /-- The number of characters that were read. -/
  length : Nat
  flaws : List Flaw
deriving Repr

abbrev Scanner (α : Type) := List Char → Except Flaw (Reading α)

/-- A lexeme of `src`, as `scan` reads it. -/
structure Lexeme {α : Type} (scan : Scanner α) (src : List Char) where
  start : Place src
  reading : Reading α
  isRead : scan start.rest = .ok reading

namespace Lexeme

variable {α : Type} {scan : Scanner α} {src : List Char}

def value (l : Lexeme scan src) : α := l.reading.value

/-- The place after the lexeme. -/
def stop (l : Lexeme scan src) : Place src :=
  l.start.advance l.reading.length

def extent (l : Lexeme scan src) : Extent src := ⟨l.start, l.stop⟩

/-- The lexeme as it is written. -/
def chars (l : Lexeme scan src) : List Char :=
  l.start.rest.take l.reading.length

end Lexeme

end LazyStyles.Syntax
