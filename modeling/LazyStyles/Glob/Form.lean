import LazyStyles.Glob.Language

/-!
# Forms of globs

A set of globs looks at most of them through a shape that needs no search: a path, a file name, a file
extension, the front or the back of a path.  The forms matter in two ways.  A form that looks at the last
part of a path finds none if that part is `..`, so such a glob does not match there; and only globs
without a simple form are compiled into the search expressions of the set (`Glob.Expression`).
-/

namespace LazyStyles.Glob

/-- How a set looks at a glob. -/
inductive Form where
  /-- A path as it stands. -/
  | path
  /-- `**/name`: the last part of the path. -/
  | name
  /-- `**/*.ext`: the extension of the last part. -/
  | extension
  /-- `path/**`: the front of the path. -/
  | front
  /-- `**/path`: the back of the path. -/
  | back
  /-- A search that needs an extension of the last part. -/
  | searchWithExtension
  /-- A search. -/
  | search
deriving DecidableEq, Repr

/-- The character of a literal. -/
def Token.literal? : Token → Option Char
  | .literal c => some c
  | _ => none

/-- The characters of a list of literals. -/
def literals? (ts : List Token) : Option (List Char) :=
  ts.mapM Token.literal?

/-- Whether the pieces are literals and satisfy `p`. -/
def areLiterals (ts : List Token) (p : List Char → Bool) : Bool :=
  match literals? ts with
  | some cs => p cs
  | none => false

/-- Whether the pieces end in a literal point and literals that are neither points nor separators,
`backwards` being the pieces from the last to the first. -/
def endsInExtension : List Token → Bool
  | .literal '.' :: _ => true
  | .literal '/' :: _ => false
  | .literal _ :: ts => endsInExtension ts
  | _ => false

/-- The form of a list of pieces. -/
def formOf (ts : List Token) : Form :=
  let name := match ts with
    | .leading :: r => !r.isEmpty && areLiterals r fun cs => !cs.contains '/'
    | _ => false
  let path := !ts.isEmpty && areLiterals ts fun _ => true
  let extension := match ts with
    | .leading :: .star :: .literal '.' :: r =>
      areLiterals r fun cs => !cs.contains '.' && !cs.contains '/'
    | _ => false
  let front := match ts.reverse with
    | .trailing :: r => areLiterals r fun _ => true
    | _ => false
  let back := match ts with
    | .leading :: r => !r.isEmpty && areLiterals r fun _ => true
    | _ => false
  if name then .name
  else if path then .path
  else if extension then .extension
  else if front then .front
  else if back then .back
  else if endsInExtension ts.reverse then .searchWithExtension
  else .search

/-- The form of a glob. -/
def form (g : Glob) : Form := formOf g.tokens

/-- Whether a form looks at the last part of a path. -/
def Form.looksAtName : Form → Bool
  | name | extension | searchWithExtension => true
  | _ => false

/-- The last part of a path. -/
def lastPart (path : List UInt8) : List UInt8 :=
  (path.reverse.takeWhile (· != slash)).reverse

/-- Whether the last part of the path is the parent directory `..`. -/
def endsInParent (path : List UInt8) : Bool :=
  lastPart path == [46, 46]

/-- Whether the glob matches the path. -/
def matchesBytes (g : Glob) (path : List UInt8) : Bool :=
  !(g.form.looksAtName && endsInParent path) && g.describes path

end LazyStyles.Glob
