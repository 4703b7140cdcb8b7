import LazyStyles.Syntax.Source
import LazyStyles.Syntax.Traversal

/-!
# Trees of a host

A host keeps syntax trees without the source they came from.  Their leaves are records (`Leaves.host`): the
value of each literal, the text it was written with where the host still has that, and a span, which may be
missing.  `Leaves.toHost` makes such records from the lexemes of a source.
-/

namespace LazyStyles.Syntax

/-- The bytes from `lo` up to `hi` of a source. -/
structure ByteSpan where
  lo : Nat
  hi : Nat
deriving DecidableEq, Repr

structure IdentNode where
  span : Option ByteSpan
  name : String
deriving DecidableEq, Repr

structure StrNode where
  span : Option ByteSpan
  value : String
  /-- The literal as it was written. -/
  raw : Option String
deriving DecidableEq, Repr

structure NumeralNode where
  span : Option ByteSpan
  value : Numeral
  /-- The literal as it was written. -/
  raw : Option String
deriving DecidableEq, Repr

structure ConstantNode where
  span : Option ByteSpan
  value : Constant
deriving DecidableEq, Repr

structure RegexNode where
  span : Option ByteSpan
  value : Regex
deriving DecidableEq, Repr

structure JsxTextNode where
  span : Option ByteSpan
  value : String
deriving DecidableEq, Repr

structure ChunkNode where
  span : Option ByteSpan
  raw : String
  cooked : Option String
deriving DecidableEq, Repr

/-- The leaves of a host's tree. -/
def Leaves.host : Leaves where
  Span := Option ByteSpan
  Ident := IdentNode
  Str := StrNode
  Numeral := NumeralNode
  Constant := ConstantNode
  Regex := RegexNode
  JsxText := JsxTextNode
  Chunk := ChunkNode

/-- An expression of a host. -/
abbrev HostExpr := Expr Leaves.host

/-- A module of a host. -/
abbrev HostModule := Module Leaves.host

/-- A program of a host. -/
inductive Program where
  | module (m : HostModule)
  | script (m : HostModule)

/-! ### From a source -/

variable {src : List Char}

/-- The bytes of an extent, in a source of `size` bytes that ends as `src` does. -/
def Extent.bytes (size : Nat) (e : Extent src) : ByteSpan :=
  ⟨size - byteSize e.start.rest, size - byteSize e.stop.rest⟩

/-- The records of lexemes, in a source of `size` bytes that ends as `src` does. -/
def Leaves.toHost (src : List Char) (size : Nat) : Leaves.Map (Leaves.ofSource src) Leaves.host where
  span e := some (Extent.bytes size e)
  ident w := ⟨some ((Lexeme.extent w).bytes size), (Lexeme.value w).name⟩
  str s := ⟨some ((Lexeme.extent s).bytes size), Lexeme.value s, some (String.ofList (Lexeme.chars s))⟩
  numeral n :=
    ⟨some ((Lexeme.extent n).bytes size), Lexeme.value n, some (String.ofList (Lexeme.chars n))⟩
  constant c := ⟨some ((Lexeme.extent (ConstantLexeme.word c)).bytes size), ConstantLexeme.value c⟩
  regex r := ⟨some ((Lexeme.extent r).bytes size), Lexeme.value r⟩
  jsxText t := nomatch t
  chunk c :=
    ⟨some ((Lexeme.extent c).bytes size), (Lexeme.value c).raw, (Lexeme.value c).cooked.toOption⟩

/-! ### Forgetting -/

/-- Forgets spans. -/
def Leaves.withoutSpans : Leaves.Map Leaves.host Leaves.host where
  span _ := none
  ident i := { (i : IdentNode) with span := none }
  str s := { (s : StrNode) with span := none }
  numeral n := { (n : NumeralNode) with span := none }
  constant c := { (c : ConstantNode) with span := none }
  regex r := { (r : RegexNode) with span := none }
  jsxText t := { (t : JsxTextNode) with span := none }
  chunk c := { (c : ChunkNode) with span := none }

/-- Forgets how literals were written. -/
def Leaves.withoutRaws : Leaves.Map Leaves.host Leaves.host where
  span s := s
  ident i := i
  str s := { (s : StrNode) with raw := none }
  numeral n := { (n : NumeralNode) with raw := none }
  constant c := c
  regex r := r
  jsxText t := t
  chunk c := c

/-- The module without any span. -/
def Module.withoutSpans (m : HostModule) : HostModule :=
  m.map Leaves.withoutSpans

/-- The module with no string or number remembering how it was written. -/
def Module.withoutRaws (m : HostModule) : HostModule :=
  m.map Leaves.withoutRaws

/-! ### What a module remembers -/

/-- The span that a part of a tree has. -/
def Part.span? : Part Leaves.host → Option ByteSpan
  | .span s => s
  | .ident i => IdentNode.span i
  | .str s => StrNode.span s
  | .numeral n => NumeralNode.span n
  | .constant c => ConstantNode.span c
  | .regex r => RegexNode.span r
  | .jsxText t => JsxTextNode.span t
  | .chunk c => ChunkNode.span c

/-- The spans of a module that are there. -/
def Module.spans (m : HostModule) : List ByteSpan :=
  m.parts.filterMap Part.span?

/-- The spans of a program that are there. -/
def Program.spans : Program → List ByteSpan
  | .module m | .script m => m.spans

/-- How a string, a number or a regular expression was written, as far as it is known. -/
def Part.raw? : Part Leaves.host → Option (Option String)
  | .str s => some (StrNode.raw s)
  | .numeral n => some (NumeralNode.raw n)
  | .regex r => some (some (RegexNode.value r).text)
  | _ => none

/-- How the strings, numbers and regular expressions of a module were written, in the order of the
source. -/
def Module.raws (m : HostModule) : List (Option String) :=
  m.parts.filterMap Part.raw?

end LazyStyles.Syntax
