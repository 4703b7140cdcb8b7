import LazyStyles.Syntax.Reader.Basic

/-!
# Names

The words that stand for names.  Most refusals are only reported: a name that strict code reserves is read
as a name all the same.
-/

namespace LazyStyles.Syntax.Reader

variable {src : List Char}

/-- Any word, reserved or not. -/
def anyWord : Reader src (Lexeme scanWord src) := do
  match (← get).token with
  | .word w =>
    next
    return w
  | .finish => failAtEnd
  | _ => failHere .expectedIdentifier

/-- Whether strict code reserves `w`, which may be a name elsewhere. -/
def isStrictName (w : String) : Bool :=
  w == "yield" || w == "let" || w == "static" || futureWords.contains w

/-- A word that stands for a name, where `yield` and `await` may do so or not. -/
def identifier (allowsYield allowsAwait : Bool) : Reader src (Lexeme scanWord src) := do
  let c ← read
  let w ← anyWord
  let n := w.value.name
  if n == "enum" || (c.isStrict && isStrictName n) then report (.strictName n) w.start
  if n == "await" then
    if c.isModule || c.inAsync then fail .awaitName w.start
    else if !allowsAwait then fail .expectedIdentifier w.start
  else if n == "yield" then
    if !allowsYield then fail .expectedIdentifier w.start
  else if n != "enum" && keywords.contains n then fail .expectedIdentifier w.start
  if n == "arguments" && c.inField then report .argumentsInField w.start
  return w

/-- Whether `w` is `eval` or `arguments`, which strict code does not bind. -/
def isUnbindable (w : Lexeme scanWord src) : Bool :=
  w.value.name == "eval" || w.value.name == "arguments"

/-- Reports a name that strict code does not bind. -/
def checkBindable (w : Lexeme scanWord src) : Reader src Unit := do
  if isUnbindable w && (← read).isStrict then report .evalOrArguments w.start

/-- A name that is bound; `let` may not be bound by a declaration of its own kind. -/
def boundName (refusesLet : Bool) : Reader src (Lexeme scanWord src) := do
  if refusesLet && (← tokenIs "let") then
    unexpected "let is reserved in const, let, class declaration"
  let w ← identifier true true
  checkBindable w
  let c ← read
  if w.value.name == "await" && (c.inAsync || c.inStaticBlock) then report .expectedIdentifier w.start
  if w.value.name == "arguments" && c.inStaticBlock then report .argumentsInStaticBlock w.start
  return w

/-- Whether a token may be a bound name. -/
def bindsName (c : Context) : Token src → Bool
  | .word w =>
    let n := w.value.name
    n == "yield" || n == "await" || !c.reserves n
  | _ => false

/-- Whether the current token may be a bound name. -/
def atBoundName : Reader src Bool := do
  return bindsName (← read) (← get).token

end LazyStyles.Syntax.Reader
