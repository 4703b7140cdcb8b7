import LazyStyles.Syntax.Reader.Grammar

/-!
# Functions and classes

Parameters, bodies and methods.  A body starts afresh: no loop and no label outside can be left from it.
-/

namespace LazyStyles.Syntax.Reader

variable {src : List Char}

/-! ### Bodies -/

/-- Whether a statement is the directive that makes code strict. -/
def isStrictDirective : SourceStatement src → Bool
  | .expression _ (.literal (.str s)) =>
    let t := String.ofList (Lexeme.chars s)
    t == "\"use strict\"" || t == "'use strict'"
  | _ => false

/-- Statements up to the closing brace, which is passed.  At the start of a body the first may make the
rest strict. -/
def statements (g : Grammar src) :
    (fuel : Nat) → (startsBody : Bool) → Reader src (List (SourceStatement src))
  | 0, _ => failHere .tooDeep
  | fuel + 1, startsBody => do
    if ← isFinished then
      report (.expected "\x7d" "<eof>") (← here)
      return []
    else if ← eat "\x7d" then return []
    else
      let s ← g.statement true
      let ss ← within (fun c => { c with isStrict := c.isStrict || (startsBody && isStrictDirective s) })
        (statements g fuel false)
      return s :: ss

/-- Statements in braces. -/
def braced (g : Grammar src) (isBody : Bool) : Reader src (List (SourceStatement src)) := do
  expect "\x7b"
  statements g g.fuel isBody

/-- A block. -/
def block (g : Grammar src) : Reader src (SourceStatement src) := do
  let start ← here
  let ss ← braced g false
  return .block (← extentFrom start) ss

/-- Whether every parameter is a name. -/
def areSimple (ps : List (Element (Leaves.ofSource src))) : Bool :=
  ps.all fun p => p matches .item (.ident _)

/-- What holds in the body of a function. -/
def bodyContext (isAsync isGenerator isArrow : Bool) (c : Context) : Context :=
  { c with
    inAsync := isAsync
    inGenerator := isGenerator
    inFunction := true
    inStaticBlock := false
    hasNewTarget := c.hasNewTarget || !isArrow
    allowsBreak := false
    allowsContinue := false
    labels := [] }

/-- The statements of a function's body. -/
def body (g : Grammar src) (isAsync isGenerator isArrow isSimple : Bool) :
    Reader src (List (SourceStatement src)) :=
  within (bodyContext isAsync isGenerator isArrow) do
    let start ← here
    let ss ← braced g true
    if !isSimple && (ss.head?.any isStrictDirective) then report .strictDirectiveWithPatterns start
    return ss

/-! ### Parameters -/

/-- The parameters of a function, after a rest parameter at `rest?` if there has been one. -/
def parameters (g : Grammar src) :
    (fuel : Nat) → (rest? : Option (Place src)) → Reader src (List (Element (Leaves.ofSource src)))
  | 0, _ => failHere .tooDeep
  | fuel + 1, rest? => do
    if (← tokenIs ")") || (← isFinished) then return []
    else
      if let some p := rest? then report .restNotLast p
      let start ← here
      if ← eat "..." then
        let dots ← extentFrom start
        let t ← g.target false
        let t' ← if ← eat "=" then do
            let v ← g.assignment
            report .restWithInitializer t.start
            pure (Expr.assignment (← extentFrom t.start) none t v)
          else pure t
        if !(← tokenIs ")") then
          expect ","
          if ← tokenIs ")" then report .commaAfterRest (← get).previous.start
        let ps ← parameters g fuel (some start)
        return .spread dots t' :: ps
      else
        let t ← targetWithDefault g
        if !(← tokenIs ")") then expect ","
        let ps ← parameters g fuel rest?
        return .item t :: ps

/-- What is asked of parameters besides their form. -/
inductive ParameterRule (src : List Char) where
  | any
  /-- None, for a getter with the name at the place. -/
  | getter (key : Place src)
  /-- One, for a setter with the name at the place. -/
  | setter (key : Place src)

/-- Reports parameters that a rule refuses. -/
def ParameterRule.check (ps : List (Element (Leaves.ofSource src))) : ParameterRule src → Reader src Unit
  | .any => return
  | .getter key => do
    if !ps.isEmpty then report .getterParameters key
  | .setter key => do
    if ps.length != 1 then report .setterParameters key
    if let .spread s _ :: _ := ps then report .setterRest (Extent.start s)

/-- A function from its parameters on. -/
def functionFrom (g : Grammar src) (start : Place src) (name : Option (Lexeme scanWord src))
    (isAsync isGenerator : Bool) (rule : ParameterRule src) :
    Reader src (Function (Leaves.ofSource src)) :=
  within (fun c => { c with inAsync := isAsync, inGenerator := isGenerator }) do
    expect "("
    let ps ← within (fun c => { c with inParameters := true, inFunction := false })
      (parameters g g.fuel none)
    rule.check ps
    expect ")"
    let ss ← body g isAsync isGenerator false (areSimple ps)
    return .mk (← extentFrom start) name isAsync isGenerator ps ss

/-- Outside of any method and field. -/
def plainContext (c : Context) : Context :=
  { c with allowsSuper := false, inField := false }

/-- A function from the word `function` on; one that is declared has a name. -/
def function (g : Grammar src) (start : Place src) (isAsync isDeclared needsName : Bool) :
    Reader src (Function (Leaves.ofSource src)) :=
  within plainContext do
    expect "function"
    let isGenerator ← eat "*"
    let name ← within (fun c => { c with
        inAsync := if isDeclared then c.inAsync else isAsync
        inGenerator := if isDeclared then c.inGenerator else isGenerator }) do
      if needsName then pure (some (← boundName false))
      else if ← atBoundName then pure (some (← boundName false))
      else pure none
    functionFrom g start name isAsync isGenerator .any

/-- Whether the word `async` is here with `function` after it on the same line. -/
def atAsyncFunction : Reader src Bool := do
  if ← tokenIs "async" then
    let t ← lookahead
    return t.token.is "function" && !t.isOnNewLine
  else return false

/-- A function from the word `async` on. -/
def asyncFunction (g : Grammar src) (isDeclared needsName : Bool) :
    Reader src (Function (Leaves.ofSource src)) := do
  let start ← here
  expect "async"
  function g start true isDeclared needsName

/-- Inside of a method. -/
def methodContext (c : Context) : Context :=
  { c with allowsSuper := true, inField := false }

/-- A method from its parameters on. -/
def methodFrom (g : Grammar src) (start : Place src) (isAsync isGenerator : Bool)
    (rule : ParameterRule src) : Reader src (Function (Leaves.ofSource src)) :=
  within methodContext (functionFrom g start none isAsync isGenerator rule)

/-! ### Classes -/

/-- A private name from its hash on. -/
def privateName (start : Place src) : Reader src (Lexeme scanWord src) := do
  expect "#"
  let s ← get
  if s.previous.stop.rest.length != s.start.rest.length && !s.token.isFinish then
    fail .spaceAfterHash start
  anyWord

/-- The name of a member of a class. -/
def memberKey (g : Grammar src) : Reader src (Key (Leaves.ofSource src)) := do
  if ← tokenIs "#" then
    let start ← here
    let w ← privateName start
    if w.value.name == "constructor" then report .privateConstructor start
    return .privateName (← extentFrom start) w
  else propertyKey g

/-- Whether a key names the constructor. -/
def isConstructorKey : Key (Leaves.ofSource src) → Bool
  | .ident w => (Lexeme.value w).name == "constructor"
  | .str s => Lexeme.value s == "constructor"
  | _ => false

/-- A field from after its name on. -/
def field (g : Grammar src) (start : Place src) (isStatic : Bool) (key : Key (Leaves.ofSource src)) :
    Reader src (ClassMember (Leaves.ofSource src)) := do
  if isConstructorKey key then fail .fieldConstructor key.start
  within (fun c => { c with inField := true, allowsIn := true }) do
    let value ← if ← eat "=" then pure (some (← g.assignment)) else pure none
    if !(← eatStatementEnd) then report .expectedSemicolon (← here)
    return .field (← extentFrom start) isStatic key value

/-- A method of a class from its parameters on. -/
def classMethod (g : Grammar src) (start : Place src) (isStatic : Bool) (kind : MethodKind)
    (key : Key (Leaves.ofSource src)) (isAsync isGenerator : Bool) (rule : ParameterRule src) :
    Reader src (ClassMember (Leaves.ofSource src)) := do
  let f ← methodFrom g start isAsync isGenerator rule
  return .method (← extentFrom start) isStatic kind key f

/-- Whether a field ends after its name. -/
def atFieldEnd : Reader src Bool := do
  return (← tokenIs "=") || (← tokenIs "\x7d") || (← tokenIs ";")

/-- Whether a key is one of the words `get` and `set`. -/
def isAccessorWord : Key (Leaves.ofSource src) → Bool
  | .ident w => (Lexeme.value w).name == "get" || (Lexeme.value w).name == "set"
  | _ => false

/-- Whether a key is the word `text`. -/
def isKeyWord (text : String) : Key (Leaves.ofSource src) → Bool
  | .ident w => (Lexeme.value w).name == text
  | _ => false

/-- A member of a class after the word `static`, if that is there at `static?`. -/
def classMemberFrom (g : Grammar src) (start : Place src) (static? : Option (Place src)) :
    Reader src (ClassMember (Leaves.ofSource src)) := do
  let isStatic := static?.isSome
  if isStatic && (← tokenIs "\x7b") then
    let ss ← within (fun c => { c with inStaticBlock := true, inField := false }) (braced g false)
    return .staticBlock (← extentFrom start) ss
  if ← eat "*" then
    let key ← memberKey g
    if isConstructorKey key then report .generatorConstructor (← here)
    classMethod g start isStatic .plain key false true .any
  else
    let key ← memberKey g
    if ← tokenIs "(" then
      if isConstructorKey key then
        let m ← classMethod g start isStatic .constructor key false false .any
        if let some p := static? then report .staticConstructor p
        return m
      else classMethod g start isStatic .plain key false false .any
    else
      let startsGenerator := (← isOnNewLine) && (← tokenIs "*")
      let isAccessor := isAccessorWord key && !(← atFieldEnd) && !startsGenerator
      if !isAccessor && ((← tokenIs "=") || (← atStatementEnd)) then field g start isStatic key
      else if isKeyWord "async" key && !(← isOnNewLine) then
        let isGenerator ← eat "*"
        let key ← memberKey g
        if isConstructorKey key then report .asyncConstructor key.start
        classMethod g start isStatic .plain key true isGenerator .any
      else if isAccessor then
        let name ← memberKey g
        if isConstructorKey name then report .accessorConstructor key.start
        if isKeyWord "get" key then classMethod g start isStatic .getter name false false (.getter key.start)
        else classMethod g start isStatic .setter name false false (.setter key.start)
      else unexpected "* for generator, private key, identifier or async"

/-- A member of a class. -/
def classMember (g : Grammar src) : Reader src (ClassMember (Leaves.ofSource src)) := do
  let start ← here
  if ← eat ";" then return .empty (← extentFrom start)
  match (← get).token with
  | .word w =>
    if w.value.name == "static" then
      next
      if ← tokenIs "(" then classMethod g start false .plain (.ident w) false false .any
      else if ← atFieldEnd then field g start false (.ident w)
      else classMemberFrom g start (some start)
    else classMemberFrom g start none
  | _ => classMemberFrom g start none

/-- Members of a class up to its closing brace; `hasConstructor` tells whether there has been a
constructor. -/
def classMembers (g : Grammar src) :
    (fuel : Nat) → (hasConstructor : Bool) → Reader src (List (ClassMember (Leaves.ofSource src)))
  | 0, _ => failHere .tooDeep
  | fuel + 1, hasConstructor => do
    if (← tokenIs "\x7d") || (← isFinished) then return []
    else
      let start ← here
      let m ← within (fun c => { c with allowsSuper := true }) (classMember g)
      let isConstructor := m matches .method _ _ .constructor _ _
      if isConstructor && hasConstructor then report .duplicateConstructor start
      let ms ← classMembers g fuel (hasConstructor || isConstructor)
      return m :: ms

/-- A class.  All code in it is strict. -/
def classFrom (g : Grammar src) (start : Place src) (needsName : Bool) :
    Reader src (Class (Leaves.ofSource src)) :=
  within (fun c => { c with isStrict := true }) do
    expect "class"
    let name ← if needsName then pure (some (← boundName true))
      else if (← atBoundName) && !(← tokenIs "extends") then pure (some (← boundName true))
      else pure none
    let heritage ← if ← eat "extends" then pure (some (← g.access false)) else pure none
    if ← tokenIs "extends" then
      report .secondExtends (← here)
      next
      let _ ← g.access false
    expect "\x7b"
    let ms ← classMembers g g.fuel false
    if ← isFinished then report (.expected "\x7d" "<eof>") (← here) else expect "\x7d"
    return .mk (← extentFrom start) name heritage ms

end LazyStyles.Syntax.Reader
