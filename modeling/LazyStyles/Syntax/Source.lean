import LazyStyles.Syntax.Token
import LazyStyles.Syntax.Tree

/-!
# Trees over a source

The leaves of a tree that has been read from a source are lexemes of it, and its spans are extents
(`Leaves.ofSource`).  Where an expression starts can be read off its first leaf or span (`Expr.start`).
-/

namespace LazyStyles.Syntax

/-- The values that have a word of their own. -/
inductive Constant where
  | true | false | null
deriving DecidableEq, Repr

/-- The word of a constant. -/
def Constant.text : Constant → String
  | true => "true"
  | false => "false"
  | null => "null"

/-- A constant as it stands in a source. -/
structure ConstantLexeme (src : List Char) where
  word : Lexeme scanWord src
  value : Constant
  isNamed : word.value = ⟨value.text, Bool.false⟩

variable {src : List Char}

/-- The constant that a word is, if it is one. -/
def ConstantLexeme.ofWord? (w : Lexeme scanWord src) : Option (ConstantLexeme src) :=
  if h : w.value = ⟨Constant.true.text, Bool.false⟩ then some ⟨w, .true, h⟩
  else if h : w.value = ⟨Constant.false.text, Bool.false⟩ then some ⟨w, .false, h⟩
  else if h : w.value = ⟨Constant.null.text, Bool.false⟩ then some ⟨w, .null, h⟩
  else none

/-- The leaves of a tree over `src`. -/
def Leaves.ofSource (src : List Char) : Leaves where
  Span := Extent src
  Ident := Lexeme scanWord src
  Str := Lexeme scanString src
  Numeral := Lexeme scanNumeral src
  Constant := ConstantLexeme src
  Regex := Lexeme scanRegex src
  JsxText := Empty
  Chunk := Lexeme scanTemplateText src

/-- An expression over a source. -/
abbrev SourceExpr (src : List Char) := Expr (Leaves.ofSource src)

/-- A statement over a source. -/
abbrev SourceStatement (src : List Char) := Statement (Leaves.ofSource src)

/-! ### Where nodes start -/

def Literal.start : Literal (Leaves.ofSource src) → Place src
  | .str s => Lexeme.start s
  | .numeral n => Lexeme.start n
  | .constant c => (ConstantLexeme.word c).start
  | .regex r => Lexeme.start r
  | .jsxText t => nomatch t

def Function.start : Function (Leaves.ofSource src) → Place src
  | .mk s .. => Extent.start s

def Class.start : Class (Leaves.ofSource src) → Place src
  | .mk s .. => Extent.start s

/-- The place where an expression starts. -/
def Expr.start : SourceExpr src → Place src
  | .literal l => l.start
  | .ident i => Lexeme.start i
  | .function f => f.start
  | .classExpr c => c.start
  | .this s | .superWord s | .importWord s _ | .privateName s _ | .importMeta s | .newTarget s
  | .array s _ | .object s _ | .arrow s .. | .template s _ | .taggedTemplate s .. | .member s ..
  | .privateMember s .. | .index s .. | .call s .. | .new s .. | .unary s .. | .update s ..
  | .binary s .. | .assignment s .. | .conditional s .. | .sequence s _ | .yield s .. | .await s _
  | .parenthesized s _ => Extent.start s

/-- The place where the name of a property starts. -/
def Key.start : Key (Leaves.ofSource src) → Place src
  | .ident i => Lexeme.start i
  | .str s => Lexeme.start s
  | .numeral n => Lexeme.start n
  | .computed s _ | .privateName s _ => Extent.start s

/-- The place where a property starts. -/
def Property.start : Property (Leaves.ofSource src) → Place src
  | .keyValue k _ => k.start
  | .shorthand n _ => Lexeme.start n
  | .method s .. | .spread s _ => Extent.start s

end LazyStyles.Syntax
