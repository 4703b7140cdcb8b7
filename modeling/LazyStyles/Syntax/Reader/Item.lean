import LazyStyles.Syntax.Reader.Statement

/-!
# Module items

Imports, exports and the statements between them.  A script has statements alone.
-/

namespace LazyStyles.Syntax.Reader

variable {src : List Char}

/-! ### Names and sources -/

/-- A name across a module's boundary. -/
def moduleName : Reader src (ModuleName (Leaves.ofSource src)) := do
  match (← get).token with
  | .word w =>
    next
    return .ident w
  | .str s =>
    next
    return .str s
  | _ => unexpected "identifier or string"

/-- The string that names another module. -/
def moduleSource : Reader src (Lexeme scanString src) := do
  match (← get).token with
  | .str s =>
    next
    return s
  | _ => unexpected "a string literal"

/-- The source of an export and the end of its statement. -/
def fromClause : Reader src (Lexeme scanString src) := do
  expect "from"
  let s ← moduleSource
  expectStatementEnd
  return s

/-! ### Imports -/

/-- The local name of an import. -/
def importedName : Reader src (Lexeme scanWord src) :=
  within (fun c => { c with inAsync := false, inGenerator := false }) (boundName false)

/-- A name in the braces of an import. -/
def importSpecifier : Reader src (ImportSpecifier (Leaves.ofSource src)) := do
  let start ← here
  let n ← moduleName
  if ← eat "as" then
    let w ← boundName false
    return .named (← extentFrom start) (some n) w
  else
    match n with
    | .ident w =>
      if (← read).reserves (Lexeme.value w).name then fail .reservedImport (Lexeme.start w)
      return .named (← extentFrom start) none w
    | .str s => fail (.importBindingIsString (Lexeme.value s)) (Lexeme.start s)

/-- What stands in the braces of an import or export, from behind the opening one on. -/
def specifiers {α : Type} (g : Grammar src) (specifier : Reader src α) : Reader src (List α) := do
  let atEnd : Reader src Bool := do return (← tokenIs "\x7d") || (← isFinished)
  let one : Reader src α := do
    let a ← specifier
    if !(← tokenIs "\x7d") then expect ","
    return a
  let as ← many atEnd one g.fuel
  expect "\x7d"
  return as

/-- The phase that the word `w` asks for, if it is no name itself: another name follows it, or a star. -/
def phaseOf? (w : Lexeme scanWord src) : Reader src (Option Phase) := do
  let n := w.value.name
  let followsFrom : Reader src Bool := do
    if ← tokenIs "from" then return (← lookahead).token.is "from" else return true
  let isName := (← atBoundName) && (← followsFrom)
  if n == "source" && isName then return some .source
  else if n == "defer" && (isName || (← tokenIs "*")) then return some .defer
  else return none

/-- The default name of an import and its phase, with the comma behind the name. -/
def defaultImport :
    Reader src (Phase × List (ImportSpecifier (Leaves.ofSource src))) := do
  if ← atBoundName then
    let w ← importedName
    match ← phaseOf? w with
    | some phase =>
      if ← tokenIs "*" then return (phase, [])
      else return (phase, [← named (← importedName)])
    | none => return (.evaluation, [← named w])
  else return (.evaluation, [])
where
  named (w : Lexeme scanWord src) : Reader src (ImportSpecifier (Leaves.ofSource src)) := do
    if !(← tokenIs "from") then expect ","
    return .default w.extent w

/-- The other names of an import. -/
def otherImports (g : Grammar src) : Reader src (List (ImportSpecifier (Leaves.ofSource src))) := do
  let start ← here
  if ← eat "*" then
    expect "as"
    let w ← importedName
    return [.namespace (← extentFrom start) w]
  else if ← eat "\x7b" then specifiers g importSpecifier
  else return []

/-- An import from behind its first word on. -/
def importRest (g : Grammar src) (start : Place src) : Reader src (Import (Leaves.ofSource src)) := do
  match (← get).token with
  | .str s =>
    next
    expectStatementEnd
    return ⟨← extentFrom start, [], s, false, none, .evaluation⟩
  | _ =>
    let (phase, first) ← defaultImport
    let others ← otherImports g
    expect "from"
    let s ← moduleSource
    expectStatementEnd
    return ⟨← extentFrom start, first ++ others, s, false, none, phase⟩

/-! ### Exports -/

/-- A name in the braces of an export. -/
def exportSpecifier : Reader src (ExportSpecifier (Leaves.ofSource src)) := do
  let start ← here
  let n ← moduleName
  let exported ← if ← eat "as" then pure (some (← moduleName)) else pure none
  return .named (← extentFrom start) n exported

/-- Reports names that no declaration of the module can have. -/
def checkLocalNames : List (ExportSpecifier (Leaves.ofSource src)) → Reader src Unit
  | [] => return
  | .named _ (.ident w) _ :: ss => do
    let n := (Lexeme.value w).name
    if keywords.contains n then report (.exportWithoutSource n) (Lexeme.start w)
    checkLocalNames ss
  | .named _ (.str s) _ :: ss => do
    report .exportBindingIsString (Lexeme.start s)
    checkLocalNames ss
  | .namespace .. :: ss => checkLocalNames ss

/-- An export of names or of everything. -/
def exportNames (g : Grammar src) (start : Place src) : Reader src (Item (Leaves.ofSource src)) := do
  let p ← here
  if (← eat "*") && (← tokenIs "from") then
    let s ← fromClause
    return .exportAll (← extentFrom start) s
  else if ← eat "as" then
    let n ← moduleName
    let all := ExportSpecifier.namespace (← extentFrom p) n
    let s ← fromClause
    return .exportNames (← extentFrom start) [all] (some s)
  else
    expect "\x7b"
    let ss ← specifiers g exportSpecifier
    if ← tokenIs "from" then
      let s ← fromClause
      return .exportNames (← extentFrom start) ss (some s)
    else
      checkLocalNames ss
      let _ ← eatStatementEnd
      return .exportNames (← extentFrom start) ss none

/-- An export of a default value, from behind its second word on. -/
def exportDefault (g : Grammar src) (start : Place src) : Reader src (Item (Leaves.ofSource src)) := do
  let p ← here
  if ← tokenIs "class" then
    let c ← classFrom g p false
    return .exportDefaultDeclaration (← extentFrom start) (.classDeclaration c)
  else if ← tokenIs "function" then
    let f ← function g p false true false
    return .exportDefaultDeclaration (← extentFrom start) (.function f)
  else if ← atAsyncFunction then
    let f ← asyncFunction g true false
    return .exportDefaultDeclaration (← extentFrom start) (.function f)
  else
    let e ← anyAssignment g
    expectStatementEnd
    return .exportDefault (← extentFrom start) e

/-- An export from behind its first word on. -/
def exportRest (g : Grammar src) (start : Place src) : Reader src (Item (Leaves.ofSource src)) := do
  if ← isFinished then failAtEnd
  let p ← here
  let exported (d : SourceStatement src) : Reader src (Item (Leaves.ofSource src)) := do
    return .exportDeclaration (← extentFrom start) d
  if ← eat "default" then exportDefault g start
  else if ← tokenIs "class" then exported (.classDeclaration (← classFrom g p true))
  else if ← atAsyncFunction then exported (.function (← asyncFunction g true true))
  else if ← tokenIs "function" then exported (.function (← function g p false true true))
  else if ← tokenIs "var" then exported (← variableDeclaration g .var false)
  else if ← tokenIs "const" then exported (← variableDeclaration g .const false)
  else if ← atLetDeclaration then exported (← variableDeclaration g .let false)
  else exportNames g start

/-! ### Items -/

/-- An `await` at the top of a module, from the word on.  Whatever follows its operand on the same line
starts another statement. -/
def topAwait (g : Grammar src) (start : Place src) (w : Lexeme scanWord src) :
    Reader src (SourceStatement src) := do
  next
  let e ← awaitFrom g w
  let e ← withIn true (infixFrom g g.fuel e 0)
  let _ ← eatStatementEnd
  return .expression (← extentFrom start) e

/-- An item of a module, or a statement of a script. -/
def item (g : Grammar src) : Reader src (Item (Leaves.ofSource src)) := do
  let start ← here
  let isModule := (← read).isModule
  match (← get).token with
  | .word w =>
    let n := w.value.name
    let t := (← lookahead).token
    let isCalled := t.is "(" || t.is "."
    if isModule && n == "import" && !isCalled then
      next
      return .imports (← importRest g start)
    else if isModule && n == "export" then
      next
      exportRest g start
    else if isModule && n == "await" then return .statement (← topAwait g start w)
    else return .statement (← statement g true)
  | _ => return .statement (← statement g true)

/-- All items up to the end of the source.  The first statement may make a script strict. -/
def items (g : Grammar src) :
    (fuel : Nat) → (isFirst : Bool) → Reader src (List (Item (Leaves.ofSource src)))
  | 0, _ => failHere .tooDeep
  | fuel + 1, isFirst => do
    if ← isFinished then return []
    else
      let i ← item g
      let makesStrict := match i with
        | .statement s => isFirst && isStrictDirective s
        | _ => false
      let is ← within (fun c => { c with isStrict := c.isStrict || makesStrict }) (items g fuel false)
      return i :: is

end LazyStyles.Syntax.Reader
