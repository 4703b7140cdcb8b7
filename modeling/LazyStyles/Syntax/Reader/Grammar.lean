import LazyStyles.Syntax.Reader.Name

/-!
# The grammar's entry points

Readers of nested constructs call each other in circles.  Each circle goes through one of a few entry
points, which a `Grammar` collects: the readers of one construct are written against a grammar for the
constructs inside it.  Tying the knot is then a matter of levels, each built upon the one below.
-/

namespace LazyStyles.Syntax

/-- Readers for the constructs nested in the one that is being read. -/
structure Grammar (src : List Char) where
  /-- A bound for the length of every list, beyond the length of the source. -/
  fuel : Nat
  /-- An expression without commas at its top. -/
  assignment : Reader src (SourceExpr src)
  /-- An operand with its own operators; `leads` tells whether an expression starts with it, so that it may be an arrow
  function. -/
  operand : (leads : Bool) → Reader src (SourceExpr src)
  /-- What an operator applies to: a member, a call or something simpler. -/
  access : (leads : Bool) → Reader src (SourceExpr src)
  /-- An access without calls but for those of an optional chain. -/
  member : (leads : Bool) → Reader src (SourceExpr src)
  /-- A name, array or object that is bound, in a declaration that refuses the name `let` or not. -/
  target : (refusesLet : Bool) → Reader src (SourceExpr src)
  /-- A statement, which may be a declaration or not. -/
  statement : (mayDeclare : Bool) → Reader src (SourceStatement src)

variable {src : List Char}

namespace Grammar

/-- The grammar of nothing: there is no depth left. -/
def none : Grammar src where
  fuel := 0
  assignment := Reader.failHere .tooDeep
  operand _ := Reader.failHere .tooDeep
  access _ := Reader.failHere .tooDeep
  member _ := Reader.failHere .tooDeep
  target _ := Reader.failHere .tooDeep
  statement _ := Reader.failHere .tooDeep

end Grammar

namespace Reader

/-- An expression, with commas at its top perhaps. -/
def expression (g : Grammar src) : Reader src (SourceExpr src) := do
  let e ← g.assignment
  if ← tokenIs "," then
    let es ← many (return !(← eat ",")) g.assignment g.fuel
    let es := e :: es
    return .sequence (← extentFrom e.start) es
  else return e

/-- An expression in which `in` is an operator. -/
def anyExpression (g : Grammar src) : Reader src (SourceExpr src) :=
  withIn true (expression g)

/-- An expression without commas in which `in` is an operator. -/
def anyAssignment (g : Grammar src) : Reader src (SourceExpr src) :=
  withIn true g.assignment

/-- An expression, or three dots and an expression. -/
def spreadable (g : Grammar src) : Reader src (Element (Leaves.ofSource src)) := do
  let start ← here
  if ← eat "..." then
    let dots ← extentFrom start
    return .spread dots (← anyAssignment g)
  else return .item (← anyAssignment g)

/-- The name of a property. -/
def propertyKey (g : Grammar src) : Reader src (Key (Leaves.ofSource src)) := do
  let start ← here
  match (← get).token with
  | .word w =>
    next
    return .ident w
  | .str s =>
    next
    return .str s
  | .numeral n =>
    next
    return .numeral n
  | t =>
    if t.is "[" then
      next
      let e ← anyAssignment g
      expect "]"
      return .computed (← extentFrom start) e
    else unexpected "identifier, string literal, numeric literal or [ for the computed key"

/-! ### Targets of declarations -/

/-- A target with an initial value perhaps. -/
def targetWithDefault (g : Grammar src) : Reader src (SourceExpr src) := do
  let t ← g.target false
  if ← eat "=" then
    let v ← anyAssignment g
    return .assignment (← extentFrom t.start) none t v
  else return t

/-- The elements of an array that is bound, after a spread at `rest?` if there has been one. -/
def targetElements (g : Grammar src) :
    (fuel : Nat) → (rest? : Option (Place src)) → Reader src (List (Element (Leaves.ofSource src)))
  | 0, _ => failHere .tooDeep
  | fuel + 1, rest? => do
    if (← tokenIs "]") || (← isFinished) then return []
    else if ← eat "," then
      let es ← targetElements g fuel rest?
      return .hole :: es
    else
      if let some p := rest? then report .restElementNotLast p
      let start ← here
      if ← eat "..." then
        let dots ← extentFrom start
        let t ← g.target false
        if !(← tokenIs "]") then
          expect ","
          if ← tokenIs "]" then report .commaAfterRest (← get).previous.start
        let es ← targetElements g fuel (some start)
        return .spread dots t :: es
      else
        let t ← targetWithDefault g
        if !(← tokenIs "]") then expect ","
        let es ← targetElements g fuel rest?
        return .item t :: es

/-- A property of an object that is bound, and the comma after it. -/
def targetProperty (g : Grammar src) : Reader src (Property (Leaves.ofSource src)) := do
  let start ← here
  let p ← property start
  if !(← tokenIs "\x7d") then expect ","
  let comma := (← get).previous
  if p matches .spread .. then
    if !(← tokenIs "\x7d") then report .restElementNotLast start
    else
      match p with
      | .spread _ (.ident _) =>
        if comma.chars == [','] then report .commaAfterRest comma.start
      | _ => fail .dotsWithoutIdentifier start
  return p
where
  property (start : Place src) : Reader src (Property (Leaves.ofSource src)) := do
    if ← eat "..." then
      let dots ← extentFrom start
      return .spread dots (← g.target false)
    else
      let k ← propertyKey g
      if ← eat ":" then return .keyValue k (← targetWithDefault g)
      else
        match k with
        | .ident w =>
          if ← eat "=" then
            return .shorthand w (some (← anyAssignment g))
          else
            if (← read).reserves (Lexeme.value w).name then report .reservedShorthand (Lexeme.start w)
            return .shorthand w none
        | _ => unexpected "an identifier"

/-- A name, array or object that is bound. -/
def target (g : Grammar src) (refusesLet : Bool) : Reader src (SourceExpr src) := do
  let start ← here
  match (← get).token with
  | .word _ => return .ident (← boundName refusesLet)
  | t =>
    if t.is "[" then
      next
      let es ← targetElements g g.fuel none
      expect "]"
      return .array (← extentFrom start) es
    else if t.is "\x7b" then
      next
      let ps ← many (eat "\x7d") (targetProperty g) g.fuel
      return .object (← extentFrom start) ps
    else unexpected "yield, an identifier, [ or \x7b"

end Reader

end LazyStyles.Syntax
