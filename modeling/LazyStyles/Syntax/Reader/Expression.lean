import LazyStyles.Syntax.Reader.Function
import LazyStyles.Syntax.Reader.Target

/-!
# Expressions

From primary expressions up to assignments.  Whether a parenthesis or a name is the head of an arrow
function shows only behind it; so both are read as expressions first.  An arrow function may stand only
where an expression without operators may: `leads` tells whether that is so.
-/

namespace LazyStyles.Syntax

/-! ### Operators -/

/-- How tightly a binary operator binds. -/
def BinaryOperator.precedence : BinaryOperator → Nat
  | .nullish | .or => 1
  | .and => 2
  | .bitOr => 3
  | .bitXor => 4
  | .bitAnd => 5
  | .equal | .notEqual | .identical | .notIdentical => 6
  | .less | .lessEqual | .greater | .greaterEqual | .memberOf | .instanceOf => 7
  | .shiftLeft | .shiftRight | .shiftRightUnsigned => 8
  | .add | .subtract => 9
  | .multiply | .divide | .remainder => 10
  | .power => 11

/-- The binary operator that a mark is. -/
def BinaryOperator.ofMark? : String → Option BinaryOperator
  | "??" => some .nullish
  | "||" => some .or
  | "&&" => some .and
  | "|" => some .bitOr
  | "^" => some .bitXor
  | "&" => some .bitAnd
  | "==" => some .equal
  | "!=" => some .notEqual
  | "===" => some .identical
  | "!==" => some .notIdentical
  | "<" => some .less
  | "<=" => some .lessEqual
  | ">" => some .greater
  | ">=" => some .greaterEqual
  | "<<" => some .shiftLeft
  | ">>" => some .shiftRight
  | ">>>" => some .shiftRightUnsigned
  | "+" => some .add
  | "-" => some .subtract
  | "*" => some .multiply
  | "/" => some .divide
  | "%" => some .remainder
  | "**" => some .power
  | _ => none

/-- The operator of the assignment that a mark is, `none` being that of a plain one. -/
def assignmentOperator? : String → Option (Option BinaryOperator)
  | "=" => some none
  | "+=" => some (some .add)
  | "-=" => some (some .subtract)
  | "*=" => some (some .multiply)
  | "/=" => some (some .divide)
  | "%=" => some (some .remainder)
  | "**=" => some (some .power)
  | "<<=" => some (some .shiftLeft)
  | ">>=" => some (some .shiftRight)
  | ">>>=" => some (some .shiftRightUnsigned)
  | "&=" => some (some .bitAnd)
  | "|=" => some (some .bitOr)
  | "^=" => some (some .bitXor)
  | "&&=" => some (some .and)
  | "||=" => some (some .or)
  | "??=" => some (some .nullish)
  | _ => none

variable {src : List Char}

namespace Token

/-- The binary operator that a mark is. -/
def operator? : Token src → Option BinaryOperator
  | .mark m => BinaryOperator.ofMark? m
  | _ => none

/-- The operator of the assignment that a token is, `none` being that of a plain one. -/
def assignmentOperator? : Token src → Option (Option BinaryOperator)
  | .mark m => Syntax.assignmentOperator? m
  | _ => none

/-- The binary operator that a mark or a word is. -/
def infixOperator? (allowsIn : Bool) (t : Token src) : Option BinaryOperator :=
  if t.is "instanceof" then some .instanceOf
  else if t.is "in" then (if allowsIn then some .memberOf else none)
  else t.operator?

/-- The operator that a token is before its operand. -/
def unaryOperator? (t : Token src) : Option UnaryOperator :=
  if t.is "delete" then some .delete
  else if t.is "void" then some .void
  else if t.is "typeof" then some .typeOf
  else if t.is "+" then some .plus
  else if t.is "-" then some .minus
  else if t.is "~" then some .bitNot
  else if t.is "!" then some .not
  else none

/-- Whether the token may start an expression. -/
def startsExpression (c : Context) : Token src → Bool
  | .word w =>
    let n := w.value.name
    !c.reserves n ||
      ["await", "yield", "new", "this", "super", "class", "function", "import", "typeof", "void", "delete",
        "null", "true", "false", "let"].contains n
  | .str _ | .numeral _ => true
  | .mark m => ["\x7b", "(", "[", "!", "~", "++", "--", "+", "-", "/", "/=", "`", "#", "<", "@"].contains m
  | _ => false

end Token

/-- Whether `??` and the operator may not be mixed without parentheses. -/
def BinaryOperator.isLogical (o : BinaryOperator) : Bool :=
  o matches .and || o matches .or

namespace Reader

/-! ### Arrow functions -/

/-- The body of an arrow function: a block, or an expression whose value it returns. -/
def arrowBody (g : Grammar src) (isAsync isSimple : Bool) : Reader src (SourceStatement src) := do
  let start ← here
  if ← tokenIs "\x7b" then
    let ss ← body g isAsync false true isSimple
    return .block (← extentFrom start) ss
  else
    within (bodyContext isAsync false true) do
      let e ← g.assignment
      return .expression (← extentFrom start) e

/-- An arrow function from behind its arrow on. -/
def arrowFrom (g : Grammar src) (start : Place src) (isAsync : Bool)
    (ps : List (Element (Leaves.ofSource src))) : Reader src (SourceExpr src) := do
  let b ← arrowBody g isAsync (areSimple ps)
  return .arrow (← extentFrom start) isAsync ps b

/-! ### Operators and their operands -/

/-- Goes on behind the operand `left` as long as operators bind more tightly than `least`. -/
def infixFrom (g : Grammar src) :
    (fuel : Nat) → (left : SourceExpr src) → (least : Nat) → Reader src (SourceExpr src)
  | 0, _, _ => failHere .tooDeep
  | fuel + 1, left, least => do
    match (← get).token.infixOperator? (← read).allowsIn with
    | none => return left
    | some o =>
      if o.precedence ≤ least then return left
      else
        if o matches .power then
          if left matches .unary .. || left matches .await .. then failHere .exponentOfUnary
        next
        let operand ← g.operand false
        let right ← infixFrom g fuel operand (if o matches .power then o.precedence - 1 else o.precedence)
        checkMixing o left right
        let e := Expr.binary (← extentFrom left.start) o left right
        infixFrom g fuel e least
where
  /-- Reports `??` beside another logical operator. -/
  checkMixing (o : BinaryOperator) (left right : SourceExpr src) : Reader src Unit := do
    if mixes o left then report .mixedCoalescing left.start
    if mixes o right then report .mixedCoalescing right.start
  mixes (o : BinaryOperator) : SourceExpr src → Bool
    | .binary _ p _ _ => (o matches .nullish && p.isLogical) || (o.isLogical && p matches .nullish)
    | _ => false

/-- An arrow function whose body is a block has ended, where an operator goes on all the same. -/
def afterArrow (g : Grammar src) (e : SourceExpr src) : Reader src (SourceExpr src) := do
  match e, (← get).token.operator? with
  | .arrow _ _ _ (.block ..), some _ =>
    report .expectedSemicolon (← here)
    infixFrom g g.fuel e 0
  | _, _ => return e

/-- A conditional expression or one that binds more tightly. -/
def conditional (g : Grammar src) : Reader src (SourceExpr src) := do
  let first ← g.operand true
  if first.isArrow then return first
  let test ← infixFrom g g.fuel first 0
  if ← eat "?" then
    let yes ← anyAssignment g
    expect ":"
    let no ← g.assignment
    return .conditional (← extentFrom test.start) test yes no
  else return test

/-- A `yield` with its argument. -/
def yieldFrom (g : Grammar src) : Reader src (SourceExpr src) := do
  let start ← here
  expect "yield"
  let c ← read
  if c.inParameters && !c.inFunction then fail .yieldInParameter start
  if ← eat "*" then
    let e ← g.assignment
    return .yield (← extentFrom start) true (some e)
  else if (← atStatementEnd) || !(← get).token.startsExpression c then
    return .yield (← extentFrom start) false none
  else
    let e ← g.assignment
    return .yield (← extentFrom start) false (some e)

/-- An expression without commas at its top. -/
def assignment (g : Grammar src) : Reader src (SourceExpr src) := do
  if ← isFinished then failAtEnd
  if (← read).inGenerator && (← tokenIs "yield") then yieldFrom g
  else
    let e ← conditional g
    if e.isOperation then return e
    match (← get).token.assignmentOperator? with
    | none => return e
    | some o =>
      match o with
      | none => checkAssigned e
      | some _ => checkCompoundAssigned e
      next
      let v ← g.assignment
      return .assignment (← extentFrom e.start) o e v

/-- An `await` from behind the word on, or the word as a name. -/
def awaitFrom (g : Grammar src) (w : Lexeme scanWord src) : Reader src (SourceExpr src) := do
  if ← tokenIs "*" then failHere .awaitStar
  let c ← read
  let isAlone := (← tokenIs ")") || (← tokenIs "]") || (← tokenIs ",") || (← atStatementEnd)
  if !c.inAsync && (isAlone || !c.isModule) then
    if c.isModule then report .awaitName w.start
    return .ident w
  else
    if c.inFunction && !c.inAsync then report .awaitInFunction w.start
    if c.inParameters && !c.inFunction then report .awaitInParameter (← here)
    let e ← g.operand false
    return .await (← extentFrom w.start) e

/-- The operand of a unary operator.  One that cannot be read is reported; what takes its place is never
seen, as the source is refused. -/
def operandOrReport (g : Grammar src) (start : Place src) : Reader src (SourceExpr src) :=
  tryCatch (g.operand false) fun i => do
    record i
    passBroken
    return .superWord ⟨start, start⟩

/-- An operand with its own operators. -/
def operand (g : Grammar src) (leads : Bool) : Reader src (SourceExpr src) := do
  let start ← here
  let t := (← get).token
  if t.is "++" || t.is "--" then
    next
    let e ← g.operand false
    checkUpdated e
    return .update (← extentFrom start) (t.is "++") true e
  else
    match t.unaryOperator? with
    | some o =>
      next
      let e ← operandOrReport g start
      if o matches .delete then
        if let .ident i := e then
          if (← read).isStrict then report .deleteIdentifier (Lexeme.start i)
      return .unary (← extentFrom start) o e
    | none =>
      match t with
      | .word w =>
        if w.value.name == "await" then
          next
          awaitFrom g w
        else updated
      | _ => updated
where
  updated : Reader src (SourceExpr src) := do
    let e ← g.access leads
    if e.isArrow then return e
    if ← isOnNewLine then return e
    let t := (← get).token
    if t.is "++" || t.is "--" then
      checkUpdated e
      next
      return .update (← extentFrom e.start) (t.is "++") false e
    else return e

/-! ### Members and calls -/

/-- The arguments of a call. -/
def arguments (g : Grammar src) (isImport : Bool) :
    Reader src (List (Element (Leaves.ofSource src))) := do
  let start ← here
  expect "("
  let es ← many (eat ")") (argument start) g.fuel
  return es
where
  argument (start : Place src) : Reader src (Element (Leaves.ofSource src)) := do
    if ← isFinished then failAtEnd
    let e ← spreadable g
    if !(← tokenIs ")") then
      expectInside ","
      if isImport && (← tokenIs ")") then fail .importTrailingComma start
    return e

/-- The parts of a template, the mark before whose text is the current token. -/
def templateParts (g : Grammar src) (isTagged : Bool) :
    (fuel : Nat) → Reader src (List (TemplatePart (Leaves.ofSource src)))
  | 0 => failHere .tooDeep
  | fuel + 1 => do
    let p := (← get).stop
    match h : scanTemplateText p.rest with
    | .error f => throw ⟨f.fault, p.advance f.offset⟩
    | .ok r =>
      if let (.error f, false) := (r.value.cooked, isTagged) then throw ⟨f.fault, p.advance f.offset⟩
      let text : TemplatePart (Leaves.ofSource src) := .chunk ⟨p, r, h⟩
      let stop := p.advance r.length
      if stop.rest.head? == some '`' then
        nextFrom (stop.advance 1)
        return [text]
      else
        nextFrom (stop.advance 2)
        let e ← anyExpression g
        if ← isFinished then failAtEnd
        if !(← tokenIs "\x7d") then failHere (.expected "\x7d" (← get).token.text)
        let ps ← templateParts g isTagged fuel
        return text :: .hole e :: ps

/-- One step behind `e`: a member, a call or a template, or `none` if there is none.  With `isCallee` a
plain call is none. -/
def accessStep? (g : Grammar src) (isCallee : Bool) (e : SourceExpr src) :
    Reader src (Option (SourceExpr src)) := do
  let isSuper := e.isSuper
  let isImport := e.isImport
  let optional ← eat "?."
  if optional && isSuper then fail .superOutsideMethod e.start
  if ← eat "[" then
    let k ← anyExpression g
    expect "]"
    if isSuper && !(← read).allowsSuper then fail .superOutsideMethod e.start
    return some (.index (← extentFrom e.start) e optional k)
  else if (optional || !isCallee) && (← tokenIs "(") then
    let es ← arguments g isImport
    return some (.call (← extentFrom e.start) e optional es)
  else if optional then
    member optional isSuper
  else if ← eat "." then
    member optional isSuper
  else if isSuper || isImport then failHere .superOutsideMethod
  else if ← tokenIs "`" then
    if e.isOptionalChain then failHere .templateInOptionalChain
    let ps ← templateParts g true g.fuel
    return some (.taggedTemplate (← extentFrom e.start) e ps)
  else return none
where
  member (optional isSuper : Bool) : Reader src (Option (SourceExpr src)) := do
    if ← tokenIs "#" then
      let w ← privateName (← here)
      if isSuper then fail .superOutsideMethod w.start
      return some (.privateMember (← extentFrom e.start) e optional w)
    else
      let w ← anyWord
      if isSuper && !(← read).allowsSuper then fail .superOutsideMethod e.start
      return some (.member (← extentFrom e.start) e optional w)

/-- Goes on behind `e` with members, calls and templates. -/
def accessFrom (g : Grammar src) (isCallee : Bool) :
    (fuel : Nat) → (e : SourceExpr src) → Reader src (SourceExpr src)
  | 0, _ => failHere .tooDeep
  | fuel + 1, e => do
    match ← accessStep? g isCallee e with
    | some e' => accessFrom g isCallee fuel e'
    | none => return e

/-- What starts with the word `import`, from behind it on. -/
def importFrom (g : Grammar src) (start : Place src) (isCallee : Bool) :
    Reader src (SourceExpr src) := do
  if ← eat "." then
    let w ← anyWord
    if w.value.name == "meta" then
      if !(← read).isModule then report .metaOutsideModule start
      let e := Expr.importMeta (← extentFrom start)
      accessFrom g isCallee g.fuel e
    else if w.value.name == "source" then called .source
    else if w.value.name == "defer" then called .defer
    else unexpected "meta"
  else called .evaluation
where
  called (phase : Phase) : Reader src (SourceExpr src) := do
    if ← tokenIs "(" then
      let e := Expr.importWord (← extentFrom start) phase
      accessFrom g isCallee g.fuel e
    else unexpected "("

/-! ### Primary expressions -/

/-- The elements of an array up to its closing bracket, which is passed; `start` is where it starts. -/
def arrayElements (g : Grammar src) (start : Place src) :
    (fuel : Nat) → Reader src (List (Element (Leaves.ofSource src)))
  | 0 => failHere .tooDeep
  | fuel + 1 => do
    if ← eat "]" then return []
    else if ← isFinished then failAtEnd
    else if ← eat "," then
      let es ← arrayElements g start fuel
      return .hole :: es
    else
      let e ← spreadable g
      if !(← tokenIs "]") then
        expectInside ","
        if ← tokenIs "]" then
          let comma := (← get).previous.start
          noteFinalComma start comma
      let es ← arrayElements g start fuel
      return e :: es

/-- A property of an object. -/
def objectProperty (g : Grammar src) : Reader src (Property (Leaves.ofSource src)) := do
  let start ← here
  if ← eat "..." then
    let dots ← extentFrom start
    return .spread dots (← anyAssignment g)
  else if ← eat "*" then
    let key ← propertyKey g
    method start .plain key false true .any
  else
    let key ← propertyKey g
    if ← eat ":" then return .keyValue key (← anyAssignment g)
    else if ← tokenIs "(" then method start .plain key false false .any
    else
      match key with
      | .ident w => named start w
      | _ => unexpected "identifier"
where
  method (start : Place src) (kind : MethodKind) (key : Key (Leaves.ofSource src))
      (isAsync isGenerator : Bool) (rule : ParameterRule src) :
      Reader src (Property (Leaves.ofSource src)) := do
    let f ← methodFrom g start isAsync isGenerator rule
    return .method (← extentFrom start) kind key f
  /-- A property from behind the word `w` on, which is its name or says what it is. -/
  named (start : Place src) (w : Lexeme scanWord src) : Reader src (Property (Leaves.ofSource src)) := do
    if ← eat "?" then report .optionalMember (← get).previous.start
    let n := w.value.name
    if (← tokenIs "=") || (← tokenIs ",") || (← tokenIs "\x7d") then
      if (← read).reserves n then report .reservedShorthand w.start
      if ← eat "=" then return .shorthand w (some (← anyAssignment g))
      else return .shorthand w none
    else if n == "get" then
      let key ← propertyKey g
      method start .getter key false false (.getter key.start)
    else if n == "set" then
      let key ← propertyKey g
      method start .setter key false false (.setter key.start)
    else if n == "async" then
      let isGenerator ← eat "*"
      let key ← propertyKey g
      method start .plain key true isGenerator .any
    else unexpected "... , *,  (, [, :, , ?, = or an identifier"

/-- An object from behind its opening brace on. -/
def objectFrom (g : Grammar src) (start : Place src) : Reader src (SourceExpr src) := do
  let ps ← many (eat "\x7d") property g.fuel
  return .object (← extentFrom start) ps
where
  property : Reader src (Property (Leaves.ofSource src)) := do
    if ← isFinished then failAtEnd
    let p ← objectProperty g
    if !(← tokenIs "\x7d") then
      expectInside ","
      if ← tokenIs "\x7d" then
        let comma := (← get).previous.start
        noteFinalComma start comma
    return p

/-- What stands in parentheses up to the closing one, which is passed, and the comma before it if there is
one. -/
def parenthesizedItems (g : Grammar src) :
    (fuel : Nat) →
      Reader src (List (Place src × Element (Leaves.ofSource src)) × Option (Place src))
  | 0 => failHere .tooDeep
  | fuel + 1 => do
    if ← eat ")" then return ([], none)
    if ← isFinished then failAtEnd
    let start ← here
    let e ← spreadable g
    if ← eat ")" then return ([(start, e)], none)
    expectInside ","
    let comma := (← get).previous.start
    if ← eat ")" then return ([(start, e)], some comma)
    let (es, last) ← parenthesizedItems g fuel
    return ((start, e) :: es, last)

/-- The expression of an item in parentheses, which no spread is. -/
def unspread : Element (Leaves.ofSource src) → Reader src (SourceExpr src)
  | .item e => return e
  | .spread _ e => fail .spreadInParentheses e.start
  | .hole => failHere .expressionExpected

/-- The expressions of items in parentheses. -/
def unspreadAll : List (Element (Leaves.ofSource src)) → Reader src (List (SourceExpr src))
  | [] => return []
  | e :: es => do
    let e' ← unspread e
    let es' ← unspreadAll es
    return e' :: es'

/-- A parenthesized expression or an arrow function from its opening parenthesis on.  Behind the word
`async?` it is a call or an arrow function. -/
def parentheses (g : Grammar src) (leads : Bool) (async? : Option (Lexeme scanWord src)) :
    Reader src (SourceExpr src) := do
  let start := (async?.map Lexeme.start).getD (← here)
  expect "("
  let (items, finalComma) ← withIn true (parenthesizedItems g g.fuel)
  let es := items.map (·.2)
  if ← tokenIs "=>" then
    if ← isOnNewLine then fail .arrowLineBreak start
    if !leads then fail .arrowNotAllowed start
    expect "=>"
    checkArrowParameters finalComma es
    afterArrow g (← arrowFrom g start async?.isSome es)
  else
    match async? with
    | some w => return .call (← extentFrom start) (.ident w) false es
    | none =>
      let extent ← extentFrom start
      match ← unspreadAll es with
      | [] => fail .emptyParentheses start
      | [e] => return .parenthesized extent e
      | e :: es =>
        let inner : Extent src := ⟨e.start, (← get).previous.start⟩
        return .parenthesized extent (.sequence inner (e :: es))

/-- A name, or an arrow function that starts with one. -/
def nameOrArrow (g : Grammar src) (leads : Bool) : Reader src (SourceExpr src) := do
  let c ← read
  let w ← identifier (!c.inGenerator) (!c.inAsync)
  if leads && !(← isOnNewLine) then
    if w.value.name == "async" && (← atBoundName) then
      let p ← boundName false
      expect "=>"
      arrowFrom g w.start true [.item (.ident p)]
    else if ← eat "=>" then
      checkBindable w
      arrowFrom g w.start false [.item (.ident w)]
    else return .ident w
  else return .ident w

/-- A regular expression from its opening slash on. -/
def regex (_ : Grammar src) : Reader src (SourceExpr src) := do
  let p := (← get).start
  match h : scanRegex p.rest with
  | .error f => throw ⟨f.fault, p.advance f.offset⟩
  | .ok r =>
    for i in Token.issuesAt p r.flaws do record i
    nextFrom (p.advance r.length)
    return .literal (.regex ⟨p, r, h⟩)

/-- What starts with a word. -/
def primaryWord (g : Grammar src) (leads : Bool) (w : Lexeme scanWord src) :
    Reader src (SourceExpr src) := do
  let n := w.value.name
  if n == "this" then
    next
    return .this w.extent
  else if n == "function" then return .function (← function g w.start false false false)
  else if n == "class" then return .classExpr (← classFrom g w.start false)
  else
    match ConstantLexeme.ofWord? w with
    | some c =>
      next
      return .literal (.constant c)
    | none =>
      if ← atAsyncFunction then return .function (← asyncFunction g false false)
      else if n == "async" && leads && (← atCall) then
        next
        parentheses g leads (some w)
      else if n == "let" || !(← read).reserves n then nameOrArrow g leads
      else failHere .expressionExpected
where
  /-- Whether a parenthesis comes next on the same line. -/
  atCall : Reader src Bool := do
    let t ← lookahead
    return t.token.is "(" && !t.isOnNewLine

/-- An expression without operators, members and calls. -/
def primary (g : Grammar src) (leads : Bool) : Reader src (SourceExpr src) := do
  let start ← here
  match (← get).token with
  | .word w => primaryWord g leads w
  | .str s =>
    next
    return .literal (.str s)
  | .numeral n =>
    next
    return .literal (.numeral n)
  | .finish => failAtEnd
  | t =>
    if t.is "(" then parentheses g leads none
    else if t.is "[" then
      next
      let es ← arrayElements g start g.fuel
      return .array (← extentFrom start) es
    else if t.is "\x7b" then
      next
      objectFrom g start
    else if t.is "/" || t.is "/=" then regex g
    else if t.is "`" then
      let ps ← templateParts g false g.fuel
      return .template (← extentFrom start) ps
    else if ← eat "#" then
      let w ← anyWord
      return .privateName (← extentFrom start) w
    else failHere .expressionExpected

/-- An access without calls but for those of an optional chain. -/
def member (g : Grammar src) (leads : Bool) : Reader src (SourceExpr src) := do
  let start ← here
  if ← eat "new" then
    if ← eat "." then
      if !(← eat "target") then unexpected "target"
      let c ← read
      if !c.hasNewTarget && !c.inParameters && !c.inField then report .newTargetOutsideFunction start
      let e := Expr.newTarget (← extentFrom start)
      accessFrom g true g.fuel e
    else
      let callee ← g.member false
      if callee.isOptionalChain then fail .newOfOptionalChain callee.start
      if ← tokenIs "(" then
        let es ← arguments g false
        let e := Expr.new (← extentFrom start) callee es
        accessFrom g true g.fuel e
      else return .new (← extentFrom start) callee []
  else if ← eat "super" then
    let e := Expr.superWord (← extentFrom start)
    accessFrom g true g.fuel e
  else if ← eat "import" then importFrom g start true
  else
    let e ← primary g leads
    if e.isArrow then return e
    accessFrom g true g.fuel e

/-- What an operator applies to. -/
def access (g : Grammar src) (leads : Bool) : Reader src (SourceExpr src) := do
  let start ← here
  if ← eat "super" then
    let e := Expr.superWord (← extentFrom start)
    accessFrom g false g.fuel e
  else if ← eat "import" then importFrom g start false
  else
    let e ← g.member leads
    if e.isArrow then return e
    if ← tokenIs "(" then accessFrom g false g.fuel e else return e

end Reader

end LazyStyles.Syntax
