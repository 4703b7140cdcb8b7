import LazyStyles.Syntax.Reader.Name

/-!
# Targets

Expressions that turn out to be the target of an assignment or the parameters of an arrow function are
checked after they have been read.  What may be assigned to is a name, a member, and arrays and objects of
such; parameters are names and arrays and objects of names, with or without defaults.
-/

namespace LazyStyles.Syntax

variable {src : List Char}

/-- Whether an expression is an arrow function. -/
def Expr.isArrow {L : Leaves} : Expr L → Bool
  | .arrow .. => true
  | _ => false

/-- Whether an expression is the word `super`. -/
def Expr.isSuper {L : Leaves} : Expr L → Bool
  | .superWord _ => true
  | _ => false

/-- Whether an expression is the word `import`. -/
def Expr.isImport {L : Leaves} : Expr L → Bool
  | .importWord .. => true
  | _ => false

/-- Whether an expression is nothing that may be assigned to, by its form alone. -/
def Expr.isOperation {L : Leaves} : Expr L → Bool
  | .arrow .. | .conditional .. | .binary .. | .unary .. | .update .. => true
  | _ => false

/-- Whether an expression continues from an optional access. -/
def Expr.isOptionalChain {L : Leaves} : Expr L → Bool
  | .member _ e o _ | .privateMember _ e o _ | .index _ e o _ | .call _ e o _ => o || e.isOptionalChain
  | _ => false

/-- Whether an expression may be assigned to as a whole. -/
def Expr.isSimpleTarget (isStrict : Bool) : SourceExpr src → Bool
  | .ident i => !(isStrict && Reader.isUnbindable i)
  | .member _ e o _ | .privateMember _ e o _ | .index _ e o _ => !(o || e.isOptionalChain)
  | .parenthesized _ e => e.isSimpleTarget isStrict
  | _ => false

/-- Whether an expression has the form of a place to assign to, simple or not. -/
def Expr.isPlace {L : Leaves} : Expr L → Bool
  | .ident _ | .member .. | .privateMember .. | .index .. | .parenthesized .. => true
  | e => e.isOptionalChain

namespace Reader

/-- The comma before the closing bracket of the array or object that starts at `p`, if it has one. -/
def finalComma? (p : Place src) : Reader src (Option (Place src)) := do
  let cs := (← get).finalCommas
  return (cs.find? fun c => c.1.rest.length == p.rest.length).map (·.2)

/-- Reports the comma after a spread that ends the array or object at `p`. -/
def checkNoFinalComma (p : Place src) : Reader src Unit := do
  if let some comma ← finalComma? p then report .commaAfterRest comma

/-- The part of a list of elements that has none behind it but holes. -/
def withoutFinalHoles {L : Leaves} (es : List (Element L)) : List (Element L) :=
  (es.reverse.dropWhile fun e => e matches .hole).reverse

/-! ### Assignment -/

mutual

/-- Checks an element of an array or object that is assigned to. -/
def checkElement : SourceExpr src → Reader src Unit
  | .array s es => do
    let es' := withoutFinalHoles es
    checkElements s (es'.length == es.length) es
  | .object s ps => checkProperties s ps
  | .assignment s o _ _ => if o.isSome then report .notPattern s.start else return
  | e@(.binary ..) | e@(.conditional ..) | e@(.arrow ..) | e@(.unary ..) | e@(.update ..)
  | e@(.sequence ..) | e@(.yield ..) | e@(.await ..) => report .notPattern e.start
  | e => do
    if !e.isSimpleTarget (← read).isStrict then report .cannotAssign e.start

/-- Checks the elements of an array at `s` that is assigned to; `isOpen` tells whether the last may be a
spread. -/
def checkElements (s : Extent src) (isOpen : Bool) :
    List (Element (Leaves.ofSource src)) → Reader src Unit
  | [] => return
  | .hole :: es => checkElements s isOpen es
  | .item e :: es => do
    checkElement e
    checkElements s isOpen es
  | .spread _ e :: es => do
    if es.isEmpty && isOpen then
      checkElement e
      if e matches .assignment .. then report .restWithInitializer e.start
      checkNoFinalComma s.start
    else report .restElementNotLast e.start
    checkElements s isOpen es

/-- Checks the properties of an object at `s` that is assigned to. -/
def checkProperties (s : Extent src) : List (Property (Leaves.ofSource src)) → Reader src Unit
  | [] => return
  | .shorthand _ _ :: ps => checkProperties s ps
  | .keyValue _ e :: ps => do
    checkElement e
    checkProperties s ps
  | .method x _ _ _ :: _ => fail .notPattern x.start
  | .spread x e :: ps => do
    if ps.isEmpty then checkNoFinalComma s.start else report .restElementNotLast x.start
    checkElement e
    if e matches .assignment .. then report .restWithInitializer x.start
    checkProperties s ps

end

/-- Checks the target of a loop over the members of something. -/
def checkLoopTarget (e : SourceExpr src) : Reader src Unit := do
  match e with
  | .array .. | .object .. => checkElement e
  | _ => if !e.isSimpleTarget (← read).isStrict then report .assignmentTarget e.start

/-- Checks the target of a plain assignment.  What has no form to assign to ends the reading. -/
def checkAssigned (e : SourceExpr src) : Reader src Unit := do
  checkLoopTarget e
  match e with
  | .array .. | .object .. | .literal _ | .assignment .. => return
  | _ => if !e.isPlace then fail .assignmentTarget e.start

/-- Checks the target of a compound assignment. -/
def checkCompoundAssigned (e : SourceExpr src) : Reader src Unit := do
  if !e.isSimpleTarget (← read).isStrict then
    if e.isPlace then report .cannotAssign e.start else fail .assignmentTarget e.start

/-- Checks the operand of `++` and `--`. -/
def checkUpdated (e : SourceExpr src) : Reader src Unit := do
  if !e.isSimpleTarget (← read).isStrict then report .assignmentTarget e.start

/-! ### Parameters -/

mutual

/-- Checks a parameter of an arrow function, or a part of one. -/
def checkParameter : SourceExpr src → Reader src Unit
  | .array s es => do
    let es' := withoutFinalHoles es
    checkParameterElements s (es'.length == es.length) es
  | .object s ps => checkParameterProperties s ps
  | .ident i => checkBindable i
  | .assignment s o t _ =>
    if o.isSome then report .notPattern s.start
    else
      match t with
      | .ident i => checkBindable i
      | _ => return
  | .parenthesized .. => return
  | e => report .notPattern e.start

/-- Checks the elements of an array that is a parameter. -/
def checkParameterElements (s : Extent src) (isOpen : Bool) :
    List (Element (Leaves.ofSource src)) → Reader src Unit
  | [] => return
  | .hole :: es => checkParameterElements s isOpen es
  | .item e :: es => do
    checkParameter e
    checkParameterElements s isOpen es
  | .spread _ e :: es => do
    if es.isEmpty && isOpen then
      checkParameter e
      if e matches .assignment .. then report .restWithInitializer e.start
      checkNoFinalComma s.start
    else report .restElementNotLast e.start
    checkParameterElements s isOpen es

/-- Checks the properties of an object that is a parameter. -/
def checkParameterProperties (s : Extent src) :
    List (Property (Leaves.ofSource src)) → Reader src Unit
  | [] => return
  | .shorthand n _ :: ps => do
    checkBindable n
    checkParameterProperties s ps
  | .keyValue _ e :: ps => do
    checkParameter e
    checkParameterProperties s ps
  | .method x _ _ _ :: _ => fail .notPattern x.start
  | .spread x e :: ps => do
    if ps.isEmpty then checkNoFinalComma s.start else report .restElementNotLast x.start
    match e with
    | .ident i => checkBindable i
    | _ => report .dotsWithoutIdentifier x.start
    checkParameterProperties s ps

end

/-- Checks the parameters of an arrow function, with the comma before the closing parenthesis if there is
one. -/
def checkArrowParameters (finalComma : Option (Place src)) :
    List (Element (Leaves.ofSource src)) → Reader src Unit
  | [] => return
  | .hole :: es => checkArrowParameters finalComma es
  | .item e :: es => do
    checkParameter e
    checkArrowParameters finalComma es
  | .spread s e :: es => do
    if es.isEmpty then
      if e matches .assignment .. then report .restWithInitializer s.start
      if let some comma := finalComma then report .commaAfterRest comma
      checkParameter e
    else report .restNotLast s.start
    checkArrowParameters finalComma es

end Reader

end LazyStyles.Syntax
