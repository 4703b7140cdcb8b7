import LazyStyles.Syntax.Reader.Expression

/-!
# Statements

A statement is told by the word or mark it starts with; what starts otherwise is an expression.  Where a
declaration lacks its semicolon, that is reported and the reading goes on behind the line.
-/

namespace LazyStyles.Syntax.Reader

variable {src : List Char}

/-! ### Declarations -/

/-- Whether the word `let` is here with something to declare after it. -/
def atLetDeclaration : Reader src Bool := do
  if ← tokenIs "let" then
    let t := (← lookahead).token
    match t with
    | .word w => return w.value.name == "enum" || !keywords.contains w.value.name
    | _ => return t.is "[" || t.is "\x7b"
  else return false

/-- One target of a declaration with its initial value.  In the head of a loop there may be none. -/
def declarator (g : Grammar src) (kind : DeclarationKind) (inHead : Bool) :
    Reader src (Declarator (Leaves.ofSource src)) := do
  let start ← here
  let t ← g.target (kind matches .let || kind matches .const)
  let isLoopTarget := inHead && ((← tokenIs "in") || (← tokenIs "of"))
  if isLoopTarget then return .mk (← extentFrom start) t none
  else if ← eat "=" then
    let v ← g.assignment
    return .mk (← extentFrom start) t (some v)
  else
    if kind matches .const && (← read).isStrict then report .initializerRequired start
    else if !(t matches .ident _) then report .patternInitializerRequired start
    return .mk (← extentFrom start) t none

/-- The targets of a declaration.  A semicolon in place of one is reported behind the declaration's word or
at the comma before it. -/
def declarators (g : Grammar src) (kind : DeclarationKind) (inHead : Bool) :
    (fuel : Nat) → (first : Bool) → Reader src (List (Declarator (Leaves.ofSource src)))
  | 0, _ => failHere .tooDeep
  | fuel + 1, first => do
    if ← tokenIs ";" then
      let before := (← get).previous
      report .trailingComma (if first then before.stop else before.start)
      return []
    else
      let d ← withIn (!inHead || !(kind matches .var)) (declarator g kind inHead)
      if ← eat "," then
        let ds ← declarators g kind inHead fuel false
        return d :: ds
      else return [d]

/-- Goes on to where a statement may end.  Of the tokens on the way only the first may be unreadable. -/
def skipToStatementEnd : (fuel : Nat) → Reader src Unit
  | 0 => failHere .tooDeep
  | fuel + 1 => do
    if ← eatStatementEnd then return
    next
    if let .broken i := (← get).token then throw i
    skipToStatementEnd fuel

/-- A declaration of variables, of which the first word tells the kind. -/
def variableDeclaration (g : Grammar src) (kind : DeclarationKind) (inHead : Bool) :
    Reader src (SourceStatement src) := do
  let start ← here
  next
  let ds ← declarators g kind inHead g.fuel true
  if !inHead then
    unless ← eatStatementEnd do
      report .expectedSemicolon (← here)
      tryCatch (discard (expression g)) fun _ => passBroken
      skipToStatementEnd g.fuel
  return .variableDeclaration (← extentFrom start) kind ds

/-- A function that is declared as a statement. -/
def functionStatement (g : Grammar src) (start : Place src) (mayDeclare : Bool) :
    Reader src (SourceStatement src) := do
  if !mayDeclare then report .declarationNotAllowed start
  return .function (← function g start false true true)

/-! ### Simple statements -/

/-- A `break` or `continue`: whether it may stand here, and its label. -/
def jump (start : Place src) (isBreak : Bool) : Reader src (SourceStatement src) := do
  next
  let c ← read
  let label ← if ← eatStatementEnd then pure none
    else do
      let w ← identifier (!c.inGenerator) (!c.inAsync)
      expectStatementEnd
      pure (some w)
  let isUnknown := label.any fun w : Lexeme scanWord src => !c.labels.contains w.value.name
  if isBreak then
    if isUnknown then report .breakLabel start
    else if !c.allowsBreak then report .breakOutside start
    return .breaks (← extentFrom start) label
  else
    if !c.allowsContinue then report .continueOutside start
    else if isUnknown then report .continueLabel start
    return .continues (← extentFrom start) label

/-- A `return` with its value. -/
def returnStatement (g : Grammar src) (start : Place src) : Reader src (SourceStatement src) := do
  next
  let value ← if ← eatStatementEnd then pure none
    else do
      let e ← anyExpression g
      expectStatementEnd
      pure (some e)
  if !(← read).inFunction then report .returnOutsideFunction start
  return .returns (← extentFrom start) value

/-- A `throw` with its value, which stands on the same line. -/
def throwStatement (g : Grammar src) (start : Place src) : Reader src (SourceStatement src) := do
  next
  if ← isOnNewLine then failHere .lineBreakAfterThrow
  let e ← anyExpression g
  expectStatementEnd
  return .throws (← extentFrom start) e

/-- A body that may be left by a label. -/
def labelled (g : Grammar src) (w : Lexeme scanWord src) : Reader src (SourceStatement src) := do
  let n := w.value.name
  let isKnown := (← read).labels.contains n
  let b ← within (fun c => { c with allowsBreak := true, labels := n :: c.labels }) labelledBody
  if isKnown then report (.duplicateLabel n) w.start
  return .labelled (← extentFrom w.start) w b
where
  labelledBody : Reader src (SourceStatement src) := do
    let start ← here
    if ← tokenIs "function" then
      let f ← function g start false true true
      if (← read).isStrict then report .labelledFunctionInStrict start
      match f with
      | .mk _ _ isAsync isGenerator _ _ =>
        if isAsync || isGenerator then report .labelledGeneratorOrAsync start
      return .function f
    else g.statement false

/-- What starts as an expression. -/
def expressionStatement (g : Grammar src) (start : Place src) : Reader src (SourceStatement src) := do
  let e ← anyExpression g
  match e, ← tokenIs ":" with
  | .ident w, true =>
    next
    labelled g w
  | _, _ =>
    if ← eatStatementEnd then return .expression (← extentFrom start) e
    else if (← get).token.operator?.isSome then
      report .expectedSemicolon (← here)
      let e ← infixFrom g g.fuel e 0
      return .expression (← extentFrom start) e
    else failHere .expectedStatementEnd

/-! ### Compound statements -/

/-- An expression in parentheses. -/
def condition (g : Grammar src) : Reader src (SourceExpr src) := do
  expect "("
  let e ← anyExpression g
  expect ")"
  return e

/-- The body of a loop. -/
def loopBody (g : Grammar src) : Reader src (SourceStatement src) :=
  within (fun c => { c with allowsBreak := true, allowsContinue := true }) (g.statement false)

/-- An `if` with its branches. -/
def ifStatement (g : Grammar src) (start : Place src) : Reader src (SourceStatement src) := do
  next
  let test ← condition g
  let yes ← g.statement false
  let no ← if ← eat "else" then pure (some (← g.statement false)) else pure none
  return .conditional (← extentFrom start) test yes no

/-- A loop with its test behind. -/
def doStatement (g : Grammar src) (start : Place src) : Reader src (SourceStatement src) := do
  next
  let b ← loopBody g
  expect "while"
  let test ← condition g
  let _ ← eat ";"
  return .doWhile (← extentFrom start) b test

/-- A loop with its test in front. -/
def whileStatement (g : Grammar src) (start : Place src) : Reader src (SourceStatement src) := do
  next
  let test ← condition g
  let b ← loopBody g
  return .whileLoop (← extentFrom start) test b

/-- A `with`, from whose body one may return. -/
def withStatement (g : Grammar src) (start : Place src) : Reader src (SourceStatement src) := do
  if (← read).isStrict then report .withInStrict start
  next
  let object ← condition g
  let b ← within (fun c => { c with inFunction := true }) (g.statement false)
  return .withObject (← extentFrom start) object b

/-- The rest of a loop over the members of something, from the word `in` or `of` on. -/
def eachLoop (g : Grammar src) (start : Place src) (await? : Option (Place src))
    (head : SourceStatement src) : Reader src (SourceStatement src) := do
  if ← eat "of" then
    let object ← anyAssignment g
    expect ")"
    let b ← loopBody g
    return .forOf (← extentFrom start) await?.isSome head object b
  else
    expect "in"
    let object ← anyExpression g
    expect ")"
    let b ← loopBody g
    if let some p := await? then fail .awaitNotForOf p
    return .forIn (← extentFrom start) head object b

/-- The rest of a loop from its first semicolon on. -/
def countedLoop (g : Grammar src) (start : Place src) (await? : Option (Place src))
    (initial : Option (SourceStatement src)) : Reader src (SourceStatement src) := do
  expect ";"
  let test ← if ← eat ";" then pure none
    else do
      let e ← anyExpression g
      expect ";"
      pure (some e)
  let update ← if ← tokenIs ")" then pure none else pure (some (← anyExpression g))
  expect ")"
  let b ← loopBody g
  if let some p := await? then fail .awaitNotForOf p
  return .forLoop (← extentFrom start) initial test update b

/-- Whether `in` or `of` is here. -/
def atEach : Reader src Bool := do
  return (← tokenIs "of") || (← tokenIs "in")

/-- Reports what the declaration in the head of a loop over members may not have. -/
def checkLoopDeclaration (kind : DeclarationKind) :
    List (Declarator (Leaves.ofSource src)) → Reader src Unit
  | [.mk s _ initial] => do
    if initial.isSome && (!(kind matches .var) || (← read).isStrict) then
      report .loopInitializer (Extent.start s)
  | ds =>
    for d in ds.drop 1 do
      let .mk s _ _ := d
      report .manyLoopBindings (Extent.start s)

/-- A `for` loop. -/
def forStatement (g : Grammar src) (start : Place src) : Reader src (SourceStatement src) := do
  next
  let p ← here
  let await? := if ← eat "await" then some p else none
  expect "("
  if ← tokenIs ";" then countedLoop g start await? none
  else
    let kind? ← if ← tokenIs "var" then pure (some DeclarationKind.var)
      else if ← tokenIs "const" then pure (some .const)
      else if ← atLetDeclaration then pure (some .let)
      else pure none
    match kind? with
    | some kind =>
      let d ← variableDeclaration g kind true
      if ← atEach then
        if let .variableDeclaration _ _ ds := d then checkLoopDeclaration kind ds
        eachLoop g start await? d
      else countedLoop g start await? (some d)
    | none =>
      let e ← withIn false (expression g)
      let head := Statement.expression (← extentFrom e.start) e
      if ← atEach then
        checkLoopTarget e
        eachLoop g start await? head
      else countedLoop g start await? (some head)

/-- A case of a `switch` from behind its first word on. -/
def switchCase (g : Grammar src) (start : Place src) (test : Option (SourceExpr src)) :
    Reader src (SwitchCase (Leaves.ofSource src)) := do
  expect ":"
  let atEnd : Reader src Bool := do
    return (← tokenIs "case") || (← tokenIs "default") || (← tokenIs "\x7d") || (← isFinished)
  let ss ← many atEnd (g.statement true) g.fuel
  return .mk (← extentFrom start) test ss

/-- The cases of a `switch`; `hasDefault` tells whether there has been one for all other values. -/
def switchCases (g : Grammar src) :
    (fuel : Nat) → (hasDefault : Bool) → Reader src (List (SwitchCase (Leaves.ofSource src)))
  | 0, _ => failHere .tooDeep
  | fuel + 1, hasDefault => do
    let start ← here
    if ← eat "case" then
      let test ← anyExpression g
      let c ← switchCase g start (some test)
      let cs ← switchCases g fuel hasDefault
      return c :: cs
    else if ← eat "default" then
      if hasDefault then failHere .multipleDefaults
      let c ← switchCase g start none
      let cs ← switchCases g fuel true
      return c :: cs
    else return []

/-- A `switch` with its cases. -/
def switchStatement (g : Grammar src) (start : Place src) : Reader src (SourceStatement src) := do
  next
  let subject ← condition g
  expect "\x7b"
  let cs ← within (fun c => { c with allowsBreak := true }) (switchCases g g.fuel false)
  expect "\x7d"
  return .switch (← extentFrom start) subject cs

/-- The handler of a `try`, if it is here. -/
def handler? (g : Grammar src) : Reader src (Option (Handler (Leaves.ofSource src))) := do
  let start ← here
  if ← eat "catch" then
    let parameter ← if ← eat "(" then do
        let t ← g.target false
        expect ")"
        pure (some t)
      else pure none
    let b ← block g
    return some (.mk (← extentFrom start) parameter b)
  else return none

/-- The final block of a `try`, if it is here. -/
def finalizer? (g : Grammar src) : Reader src (Option (SourceStatement src)) := do
  if ← eat "finally" then return some (← block g) else return none

/-- A `try` with what follows it. -/
def tryStatement (g : Grammar src) (start : Place src) : Reader src (SourceStatement src) := do
  next
  let b ← block g
  let s ← get
  let behind := if s.token.isFinish then s.previous.stop else s.start
  let h ← handler? g
  let z ← finalizer? g
  if h.isNone && z.isNone then report .expectedSemicolon behind
  return .tryCatch (← extentFrom start) b h z

/-- A handler or final block without its `try`. -/
def strayHandler (g : Grammar src) (start : Place src) : Reader src (SourceStatement src) := do
  report .expectedSemicolon start
  let _ ← handler? g
  let _ ← finalizer? g
  return .empty (← extentFrom start)

/-- A declaration of resources, which are not supported. -/
def usingStatement (g : Grammar src) (start : Place src) : Reader src (SourceStatement src) := do
  next
  let ds ← declarators g .using false g.fuel true
  report .usingNotEnabled start
  let _ ← eatStatementEnd
  return .variableDeclaration (← extentFrom start) .using ds

/-! ### Statements -/

/-- Whether the word `using` is here with a name after it on the same line. -/
def atUsing : Reader src Bool := do
  if ← tokenIs "using" then
    let t ← lookahead
    return bindsName (← read) t.token && !t.isOnNewLine
  else return false

/-- What starts with the word `import` below the top of a module: an expression. -/
def nestedImport (g : Grammar src) (start : Place src) : Reader src (SourceStatement src) := do
  let t := (← lookahead).token
  if t.is "(" || t.is "." then
    let e ← expression g
    let _ ← eatStatementEnd
    return .expression (← extentFrom start) e
  else failHere .moduleItemNested

/-- What starts with the word `w`. -/
def wordStatement (g : Grammar src) (start : Place src) (mayDeclare : Bool) (w : String) :
    Reader src (SourceStatement src) := do
  match w with
  | "import" => nestedImport g start
  | "export" => failHere .moduleItemNested
  | "break" => jump start true
  | "continue" => jump start false
  | "debugger" =>
    next
    expectStatementEnd
    return .debugger (← extentFrom start)
  | "do" => doStatement g start
  | "for" => forStatement g start
  | "function" => functionStatement g start mayDeclare
  | "class" =>
    if !mayDeclare then report .declarationNotAllowed start
    return .classDeclaration (← classFrom g start true)
  | "if" => ifStatement g start
  | "return" => returnStatement g start
  | "switch" => switchStatement g start
  | "catch" | "finally" => strayHandler g start
  | "throw" => throwStatement g start
  | "try" => tryStatement g start
  | "with" => withStatement g start
  | "while" => whileStatement g start
  | "var" => variableDeclaration g .var false
  | _ =>
    if w == "const" && mayDeclare then variableDeclaration g .const false
    else if mayDeclare && (← atLetDeclaration) then variableDeclaration g .let false
    else if mayDeclare && (← atUsing) then usingStatement g start
    else if ← atAsyncFunction then
      if !mayDeclare then report .declarationNotAllowed start
      return .function (← asyncFunction g true true)
    else expressionStatement g start

/-- A statement, which may be a declaration or not. -/
def statement (g : Grammar src) (mayDeclare : Bool) : Reader src (SourceStatement src) := do
  let start ← here
  match (← get).token with
  | .word w => wordStatement g start mayDeclare w.value.name
  | t =>
    if t.is "\x7b" then block g
    else if ← eat ";" then return .empty (← extentFrom start)
    else expressionStatement g start

end LazyStyles.Syntax.Reader
