import LazyStyles.Glob.Basic

/-!
# Reading a pattern as a glob

The reader goes through the pattern once, character by character.  Where a piece takes more than one
character (`**/`, a character class) the piece is made at its first one, and the number of characters
that belong to it are skipped after that.
-/

namespace LazyStyles.Glob

/-- An alternate group that is open: the pieces before it and its finished branches, each list backwards. -/
structure OpenGroup where
  before : List Token
  branches : List (List Token)

/-- What has been read: the pieces of the current branch, backwards, and the open groups, innermost first. -/
structure Progress where
  tokens : List Token := []
  groups : List OpenGroup := []

namespace Progress

/-- The progress with one more piece. -/
def push (p : Progress) (t : Token) : Progress :=
  { p with tokens := t :: p.tokens }

/-- Opens a group. -/
def openGroup (p : Progress) : Progress :=
  { tokens := [], groups := ⟨p.tokens, []⟩ :: p.groups }

/-- Ends the current branch and starts the next, or takes the comma as it is outside a group. -/
def comma (p : Progress) : Progress :=
  match p.groups with
  | [] => p.push (.literal ',')
  | g :: gs => { tokens := [], groups := { g with branches := p.tokens.reverse :: g.branches } :: gs }

/-- Closes the innermost group. -/
def closeGroup (p : Progress) : Except Fault Progress :=
  match p.groups with
  | [] => .error .unopenedAlternates
  | g :: gs =>
    .ok { tokens := .alternates (p.tokens.reverse :: g.branches).reverse :: g.before, groups := gs }

/-- Two stars that have no meaning of their own. -/
def pushStars (p : Progress) : Progress :=
  (p.push .star).push .star

/-- `**` after a separator: takes the place of the separator, or is absorbed by a `**` before it. -/
def pushRecursive (p : Progress) (t : Token) : Progress :=
  match p.tokens with
  | .leading :: _ | .trailing :: _ => p
  | _ :: ts => { p with tokens := t :: ts }
  | [] => { p with tokens := [t] }

/-- The pieces that a star begins, `before` being the character before it and `s` the text after it, and
the number of characters of `s` that they take. -/
def stars (p : Progress) (before : Option Char) (s : List Char) : Progress × Nat :=
  match s with
  | '*' :: s =>
    if p.tokens.isEmpty then
      match s with
      | [] => (p.push .leading, 1)
      | '/' :: _ => (p.push .leading, 2)
      | _ => (p.pushStars, 1)
    else if before ≠ some '/' then (p.pushStars, 1)
    else
      match s with
      | [] => (p.pushRecursive .trailing, 1)
      | '/' :: _ => (p.pushRecursive .between, 2)
      | c :: _ =>
        if (c = ',' ∨ c = '}') ∧ !p.groups.isEmpty then (p.pushRecursive .trailing, 1)
        else (p.pushStars, 1)
  | _ => (p.push .star, 0)

end Progress

/-- The ranges of a character class up to its closing bracket and the number of characters read,
`ranges` and `count` being those so far, the last range first.  A bracket or dash that comes `first` stands
for itself; after a dash the next character ends the last range (`inRange`). -/
def classRanges (first inRange : Bool) (ranges : List (Char × Char)) (count : Nat) :
    List Char → Except Fault (List (Char × Char) × Nat)
  | [] => .error .unclosedClass
  | c :: s =>
    if c = ']' ∧ !first then
      .ok ((if inRange then ('-', '-') :: ranges else ranges).reverse, count + 1)
    else if inRange then
      match ranges with
      | (low, _) :: rs =>
        if c < low then .error (.invalidRange low c)
        else classRanges false false ((low, c) :: rs) (count + 1) s
      | [] => classRanges false false [(c, c)] (count + 1) s
    else if c = '-' ∧ !first then classRanges false true ranges (count + 1) s
    else classRanges false false ((c, c) :: ranges) (count + 1) s

/-- The character class whose opening bracket is before `s`, and the number of characters of `s` that it
takes. -/
def charClass (s : List Char) : Except Fault (Token × Nat) :=
  match s with
  | '!' :: r | '^' :: r => (classRanges true false [] 1 r).map fun (rs, n) => (.charClass true rs, n)
  | r => (classRanges true false [] 0 r).map fun (rs, n) => (.charClass false rs, n)

/-- The pieces of a pattern, after `p` has been read and `skip` more characters are to be passed over. -/
def readTokens (skip : Nat) (before : Option Char) (p : Progress) :
    List Char → Except Fault (List Token)
  | [] => if p.groups.isEmpty then .ok p.tokens.reverse else .error .unclosedAlternates
  | c :: s =>
    match skip with
    | skip + 1 => readTokens skip (some c) p s
    | 0 =>
      match c with
      | '?' => readTokens 0 (some c) (p.push .any) s
      | '*' => let (p, n) := p.stars before s; readTokens n (some c) p s
      | '[' =>
        match charClass s with
        | .ok (t, n) => readTokens n (some c) (p.push t) s
        | .error e => .error e
      | '{' => readTokens 0 (some c) p.openGroup s
      | '}' =>
        match p.closeGroup with
        | .ok p => readTokens 0 (some c) p s
        | .error e => .error e
      | ',' => readTokens 0 (some c) p.comma s
      | c => readTokens 0 (some c) (p.push (.literal c)) s

/-- The glob that a pattern is. -/
def ofPattern (pattern : String) : Except Fault Glob :=
  (readTokens 0 none {} pattern.toList).map fun ts => ⟨pattern, ts⟩

end LazyStyles.Glob
