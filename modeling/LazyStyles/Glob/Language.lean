import LazyStyles.Glob.Basic

/-!
# The language of a glob

A glob is about the bytes of a path.  `Token.rests` lists what may be left of a text after the token has
taken its part off the front; a glob matches a path if nothing may be left of it (`matchesBytes`).
-/

namespace LazyStyles.Glob

/-- The separator. -/
def slash : UInt8 := 47

/-- The bytes of a text in UTF-8. -/
def bytesOf (s : List Char) : List UInt8 :=
  s.flatMap String.utf8EncodeChar

/-- `xs` without repetitions. -/
def distinct (xs : List (List UInt8)) : List (List UInt8) :=
  xs.foldr List.insert []

/-- What is left of `s` after `w`, if it starts with that. -/
def dropFront? : List UInt8 → List UInt8 → Option (List UInt8)
  | [], s => some s
  | _ :: _, [] => none
  | a :: w, b :: s => if a = b then dropFront? w s else none

/-- What is left of `s` after a number of bytes that are no separators. -/
def afterName : List UInt8 → List (List UInt8)
  | [] => [[]]
  | b :: s => (b :: s) :: if b = slash then [] else afterName s

/-- What is left of `s` after each of its separators. -/
def afterSlashes : List UInt8 → List (List UInt8)
  | [] => []
  | b :: s => if b = slash then s :: afterSlashes s else afterSlashes s

/-- What is left of `s` after any number of bytes. -/
def afterAnything : List UInt8 → List (List UInt8)
  | [] => [[]]
  | b :: s => (b :: s) :: afterAnything s

/-- The inclusive ranges of bytes that a range of characters stands for.  A character stands for each of
its bytes; a proper range runs from the last byte of its first character to the first of its last. -/
def byteRanges (r : Char × Char) : List (UInt8 × UInt8) :=
  let low := String.utf8EncodeChar r.1
  if r.1 = r.2 then low.map fun b => (b, b)
  else
    let high := String.utf8EncodeChar r.2
    low.dropLast.map (fun b => (b, b)) ++ [(low.getLastD 0, high.headD 0)] ++
      high.tail.map fun b => (b, b)

/-- Whether a class with these ranges holds the byte. -/
def classHolds (negated : Bool) (ranges : List (Char × Char)) (b : UInt8) : Bool :=
  ((ranges.flatMap byteRanges).any fun r => r.1 ≤ b && b ≤ r.2) != negated

/-- What is left of `s` after one byte that satisfies `p`. -/
def afterByte (p : UInt8 → Bool) : List UInt8 → List (List UInt8)
  | [] => []
  | b :: s => if p b then [s] else []

mutual

/-- Whether a token is a group of nothing but blank branches. -/
def Token.isBlank : Token → Bool
  | .alternates branches => areBlank branches
  | _ => false

/-- Whether all tokens of a branch are blank. -/
def isBlankBranch : List Token → Bool
  | [] => true
  | t :: ts => t.isBlank && isBlankBranch ts

/-- Whether all branches are blank. -/
def areBlank : List (List Token) → Bool
  | [] => true
  | b :: bs => isBlankBranch b && areBlank bs

end

mutual

/-- What may be left of `s` after a token.  A blank branch of a group does not count, and a group without
others takes nothing. -/
def Token.rests : Token → List UInt8 → List (List UInt8)
  | .literal c, s => (dropFront? (String.utf8EncodeChar c) s).toList
  | .any, s => afterByte (· != slash) s
  | .star, s => afterName s
  | .leading, s => s :: afterSlashes s
  | .between, s =>
    match dropFront? [slash] s with
    | some r => r :: afterSlashes r
    | none => []
  | .trailing, s =>
    match dropFront? [slash] s with
    | some r => afterAnything r
    | none => []
  | .charClass negated ranges, s => afterByte (classHolds negated ranges) s
  | .alternates branches, s => if areBlank branches then [s] else branchesRests branches s

/-- What may be left of one of the texts after all tokens of a branch. -/
def branchRests : List Token → List (List UInt8) → List (List UInt8)
  | [], ss => ss
  | t :: ts, ss => branchRests ts (distinct (ss.flatMap fun s => t.rests s))

/-- What may be left of `s` after one of the branches that are not blank. -/
def branchesRests : List (List Token) → List UInt8 → List (List UInt8)
  | [], _ => []
  | b :: bs, s => (if isBlankBranch b then [] else branchRests b [s]) ++ branchesRests bs s

end

/-- Whether the glob's pieces describe the whole path.  The pattern `**` alone describes every path. -/
def describes (g : Glob) (path : List UInt8) : Bool :=
  match g.tokens with
  | [.leading] => true
  | ts => (branchRests ts [path]).contains []

end LazyStyles.Glob
