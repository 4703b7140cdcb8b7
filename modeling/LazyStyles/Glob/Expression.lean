import LazyStyles.Glob.Language

/-!
# The search expression of a glob

A glob that is searched for is compiled into a regular expression over bytes.  The compiler refuses an
expression that nests too deeply, so its nesting is part of what a set of globs answers; its text is part
of the answer too, where one glob alone is refused.
-/

namespace LazyStyles.Glob

/-! ### Text -/

/-- The characters with a meaning in an expression. -/
def isMeta (c : Char) : Bool :=
  "\\.+*?()|[]\x7b\x7d^$#&-~".toList.contains c

/-- The two digits of a byte in base sixteen. -/
def hexByte (b : UInt8) : String :=
  let ds := Nat.toDigits 16 b.toNat
  String.ofList (List.replicate (2 - ds.length) '0' ++ ds)

/-- A character that stands for itself in an expression. -/
def escaped (c : Char) : String :=
  if c.toNat < 128 then if isMeta c then String.ofList ['\\', c] else c.toString
  else String.join ((String.utf8EncodeChar c).map fun b => "\\x" ++ hexByte b)

/-- A range of a class. -/
def rangeText (r : Char × Char) : String :=
  if r.1 = r.2 then escaped r.1 else escaped r.1 ++ "-" ++ escaped r.2

mutual

/-- The expression of a token. -/
def Token.expression : Token → String
  | .literal c => escaped c
  | .any => "[^/]"
  | .star => "[^/]*"
  | .leading => "(?:/?|.*/)"
  | .between => "(?:/|/.*/)"
  | .trailing => "/.*"
  | .charClass negated ranges =>
    "[" ++ (if negated then "^" else "") ++ String.join (ranges.map rangeText) ++ "]"
  | .alternates branches =>
    if areBlank branches then "" else "(?:" ++ "|".intercalate (branchExpressions branches) ++ ")"

/-- The expression of a branch. -/
def branchExpression : List Token → String
  | [] => ""
  | t :: ts => t.expression ++ branchExpression ts

/-- The expressions of the branches that are not blank. -/
def branchExpressions : List (List Token) → List String
  | [] => []
  | b :: bs =>
    if isBlankBranch b then branchExpressions bs
    else branchExpression b :: branchExpressions bs

end

/-- The expression of a glob. -/
def expression (g : Glob) : String :=
  match g.tokens with
  | [.leading] => "(?-u)^.*$"
  | ts => "(?-u)^" ++ branchExpression ts ++ "$"

/-! ### Nesting -/

/-- The nesting of `items` in sequence, given by the nesting of each: a sequence of two or more is one
level. -/
def sequenceDepth (items : List Nat) : Nat :=
  match items with
  | [] => 0
  | [d] => d
  | ds => ds.foldl max 0 + 1

/-- The number of members that a range has in a class. -/
def memberCount (r : Char × Char) : Nat :=
  if r.1 = r.2 then r.1.utf8Size else r.1.utf8Size + r.2.utf8Size - 1

mutual

/-- The items that a token has in a sequence, given by the nesting of each. -/
def Token.items : Token → List Nat
  | .literal c => List.replicate c.utf8Size 0
  | .any => [1]
  | .star => [2]
  | .leading => [4]
  | .between => [4]
  | .trailing => [0, 1]
  | .charClass _ ranges => [if ranges.foldr (fun r n => memberCount r + n) 0 ≤ 1 then 1 else 2]
  | .alternates branches =>
    if areBlank branches then []
    else
      match branchDepths branches with
      | [d] => [d + 1]
      | ds => [ds.foldl max 0 + 2]

/-- The items of a branch. -/
def branchItems : List Token → List Nat
  | [] => []
  | t :: ts => t.items ++ branchItems ts

/-- The nesting of each branch that is not blank. -/
def branchDepths : List (List Token) → List Nat
  | [] => []
  | b :: bs =>
    if isBlankBranch b then branchDepths bs
    else sequenceDepth (branchItems b) :: branchDepths bs

end

/-- The nesting of the expression of a glob, which has the items of the glob between its anchors. -/
def depth (g : Glob) : Nat :=
  match g.tokens with
  | [.leading] => 2
  | ts => (branchItems ts).foldl max 0 + 1

/-- The deepest nesting that is compiled. -/
def depthLimit : Nat := 250

/-- Whether the expression of the glob nests too deeply. -/
def isTooDeep (g : Glob) : Bool :=
  depthLimit < g.depth

end LazyStyles.Glob
