import LazyStyles.Syntax.Host

/-!
# What modules do

The meaning of the constructs that generated and lazy modules are made of: variables of a module, literals,
objects, functions without parameters, calls, `!`, `if`, assignments and `return`.  The other modules that a
module imports from are not known; a call of what they export is only put down (`Machine.calls`).

Functions are called through their place in the heap, so that a body is no part of the tree that is being
evaluated.  Evaluation is by recursion on the tree, over what a call comes to (`eval`, `exec`), and calls are
by recursion on how deep they may nest (`callAt`).
-/

namespace LazyStyles.Meaning

open Syntax

/-! ### Machines -/

/-- A value.  A regular expression stands for the object of it: nothing here changes or compares such. -/
inductive Value where
  | undefined
  | constant (c : Constant)
  | str (s : String)
  | numeral (n : Numeral)
  | regex (r : Regex)
  /-- The object at a place in the heap. -/
  | object (place : Nat)
  /-- What the module of that name exports by default: a function that is not known. -/
  | imported (source : String)
deriving DecidableEq, Repr

/-- The key of a property as it is defined. -/
inductive PropertyKey where
  | name (s : String)
  | numeral (n : Numeral)
deriving DecidableEq, Repr

/-- The names that are bound in a function itself, none of which can be assigned to. -/
abbrev Scope := List (String × Value)

/-- An object. -/
inductive Object where
  /-- An object with the properties that it has been given, one after the other. -/
  | plain (entries : List (PropertyKey × Value))
  | function (name : Option String) (scope : Scope) (body : List (Statement Leaves.host))

/-- A variable of a module.  It has no value before its declaration is reached. -/
structure Binding where
  name : String
  isMutable : Bool
  value : Option Value
deriving DecidableEq, Repr

/-- A call of what another module exports by default. -/
structure Call where
  source : String
  arguments : List Value
deriving DecidableEq, Repr

/-- The state of a running module. -/
structure Machine where
  bindings : List Binding
  heap : List Object
  /-- The calls of imported functions so far. -/
  calls : List Call
  /-- What the module exports by default. -/
  exported : Option Value

/-- Why a run breaks off. -/
inductive Failure where
  /-- A name without a value. -/
  | reference
  /-- A call of what is no function, or an assignment to what cannot be assigned to. -/
  | type
  /-- A construct that has no meaning here. -/
  | unknown
  | tooDeep
deriving DecidableEq, Repr

abbrev Run (α : Type) := StateT Machine (Except Failure) α

/-- A run goes on with the result and the machine of its first part. -/
theorem bind_eq_of_eq_ok {α β : Type} {r : Run α} {f : α → Run β} {m m' : Machine} {a : α} (h : r m = .ok (a, m')) :
    (r >>= f) m = f a m' := by
  change (r m >>= fun x => f x.1 x.2) = _
  rw [h]
  rfl

/-! ### Names and objects -/

/-- The value of a name. -/
def lookup (scope : Scope) (n : String) : Run Value := do
  match scope.lookup n with
  | some v => return v
  | none =>
    match (← get).bindings.find? (·.name == n) with
    | some ⟨_, _, some v⟩ => return v
    | _ => throw .reference

/-- Bindings with the value of one set. -/
def withValue (n : String) (v : Value) (bs : List Binding) : List Binding :=
  bs.map fun b => if b.name == n then { b with value := some v } else b

/-- Gives a variable the value of its declaration. -/
def give (n : String) (v : Value) : Run Unit :=
  modify fun m => { m with bindings := withValue n v m.bindings }

/-- Assigns to a name. -/
def assign (scope : Scope) (n : String) (v : Value) : Run Unit := do
  if (scope.lookup n).isSome then throw .type
  match (← get).bindings.find? (·.name == n) with
  | some ⟨_, true, some _⟩ => give n v
  | some ⟨_, false, some _⟩ => throw .type
  | _ => throw .reference

/-- Puts an object into the heap. -/
def allocate (o : Object) : Run Value := do
  let m ← get
  set { m with heap := m.heap ++ [o] }
  return .object m.heap.length

/-! ### Expressions and statements -/

/-- Whether a value counts as true. -/
def Value.isTruthy : Value → Bool
  | .undefined | .constant .false | .constant .null => false
  | .constant .true | .regex _ | .object _ | .imported _ => true
  | .str s => s ≠ ""
  | .numeral (.number (some x)) => x.significand ≠ 0
  | .numeral (.number none) => true
  | .numeral (.bigInt n) => n ≠ 0

/-- The value of a literal. -/
def literalValue? : Literal Leaves.host → Option Value
  | .str s => some (.str (StrNode.value s))
  | .numeral n => some (.numeral (NumeralNode.value n))
  | .constant c => some (.constant (ConstantNode.value c))
  | .regex r => some (.regex (RegexNode.value r))
  | .jsxText _ => none

/-- The key of a property that is written out. -/
def propertyKey? : Key Leaves.host → Option PropertyKey
  | .ident i => some (.name (IdentNode.name i))
  | .str s => some (.name (StrNode.value s))
  | .numeral n => some (.numeral (NumeralNode.value n))
  | .computed .. | .privateName .. => none

/-- What a construct comes to that may have no meaning. -/
def known {α : Type} : Option α → Run α
  | some a => return a
  | none => throw .unknown

/-- Calls a value.  Objects are called as `call` says. -/
def apply (call : Nat → Run Value) (f : Value) (arguments : List Value) : Run Value :=
  match f with
  | .imported source => do
    modify fun m => { m with calls := m.calls ++ [⟨source, arguments⟩] }
    return .undefined
  | .object place => call place
  | _ => throw .type

section Trees

variable (call : Nat → Run Value) (scope : Scope)

mutual

/-- The value of an expression. -/
def eval : HostExpr → Run Value
  | .literal l => known (literalValue? l)
  | .ident i => lookup scope (IdentNode.name i)
  | .parenthesized _ e => eval e
  | .object _ ps => do allocate (.plain (← evalProperties ps))
  | .function (.mk _ name false false [] body) =>
    allocate (.function (name.map IdentNode.name) scope body)
  | .unary _ .not e => do
    let v ← eval e
    return .constant (if v.isTruthy then .false else .true)
  | .assignment _ none (.ident i) e => do
    let v ← eval e
    assign scope (IdentNode.name i) v
    return v
  | .call _ f false es => do
    let f ← eval f
    let vs ← evalArguments es
    apply call f vs
  | _ => throw .unknown

def evalArguments : List (Element Leaves.host) → Run (List Value)
  | [] => return []
  | .item e :: es => do
    let v ← eval e
    return v :: (← evalArguments es)
  | _ :: _ => throw .unknown

def evalProperties : List (Property Leaves.host) → Run (List (PropertyKey × Value))
  | [] => return []
  | .keyValue k e :: ps => do
    let k ← known (propertyKey? k)
    let v ← eval e
    return (k, v) :: (← evalProperties ps)
  | _ :: _ => throw .unknown

end

mutual

/-- Runs a statement of a function; the result is what it returns, if it does. -/
def exec : Statement Leaves.host → Run (Option Value)
  | .block _ ss => execAll ss
  | .empty _ => return none
  | .expression _ e => do
    let _ ← eval call scope e
    return none
  | .conditional _ t y n => do
    if (← eval call scope t).isTruthy then exec y else execOption n
  | .returns _ (some e) => do return some (← eval call scope e)
  | .returns _ none => return some .undefined
  | _ => throw .unknown

def execAll : List (Statement Leaves.host) → Run (Option Value)
  | [] => return none
  | s :: ss => do
    match ← exec s with
    | some v => return some v
    | none => execAll ss

def execOption : Option (Statement Leaves.host) → Run (Option Value)
  | none => return none
  | some s => exec s

end

end Trees

/-- Calls the function at a place, where calls may nest so deep. -/
def callAt : (depth place : Nat) → Run Value
  | 0, _ => throw .tooDeep
  | depth + 1, place => do
    match (← get).heap[place]? with
    | some (.function name scope body) =>
      let own := name.toList.map fun n => (n, Value.object place)
      return (← execAll (callAt depth) (own ++ scope) body).getD .undefined
    | _ => throw .type

/-! ### Modules -/

/-- The variable that is declared for a target, as it is before anything is run. -/
def declaredBy (kind : DeclarationKind) : Declarator Leaves.host → List Binding
  | .mk _ (.ident i) _ => [⟨IdentNode.name i, kind ≠ .const, if kind = .var then some .undefined else none⟩]
  | _ => []

/-- The variables of an item, as they are before anything is run: imports are there from the start. -/
def declared : Item Leaves.host → List Binding
  | .imports ⟨_, [.default _ n], source, false, none, .evaluation⟩ =>
    [⟨IdentNode.name n, false, some (.imported (StrNode.value source))⟩]
  | .statement (.variableDeclaration _ kind ds) => ds.flatMap (declaredBy kind)
  | _ => []

/-- Runs the declaration of a variable. -/
def execDeclarator (depth : Nat) (kind : DeclarationKind) : Declarator Leaves.host → Run Unit
  | .mk _ (.ident i) (some e) => do give (IdentNode.name i) (← eval (callAt depth) [] e)
  | .mk _ (.ident i) none =>
    if kind = .var then return () else if kind = .let then give (IdentNode.name i) .undefined else throw .unknown
  | _ => throw .unknown

/-- Runs an item. -/
def execItem (depth : Nat) : Item Leaves.host → Run Unit
  | .imports ⟨_, [.default _ _], _, false, none, .evaluation⟩ => return ()
  | .statement (.variableDeclaration _ kind ds) =>
    if kind = .using then throw .unknown else ds.forM (execDeclarator depth kind)
  | .statement (.expression _ e) => do
    let _ ← eval (callAt depth) [] e
  | .exportDefault _ e => do
    let v ← eval (callAt depth) [] e
    modify fun m => { m with exported := some v }
  | _ => throw .unknown

/-- The machine with which a run of the items starts. -/
def initial (is : List (Item Leaves.host)) : Machine := ⟨is.flatMap declared, [], [], none⟩

/-- Runs items from the start. -/
def runItems (depth : Nat) (is : List (Item Leaves.host)) : Except Failure Machine := do
  let (_, m) ← (is.forM (execItem depth)).run (initial is)
  return m

/-- Runs a module, for which its spans mean nothing. -/
def run (depth : Nat) (m : HostModule) : Except Failure Machine :=
  runItems depth m.withoutSpans.items

/-- Calls what the module exports by default. -/
def callExported (depth : Nat) : Run Value := do
  match (← get).exported with
  | some f => apply (callAt depth) f []
  | none => throw .reference

/-- Calls what the module exports by default so many times; the results one after the other. -/
def callTimes (depth : Nat) : Nat → Run (List Value)
  | 0 => return []
  | n + 1 => do
    let v ← callExported depth
    return v :: (← callTimes depth n)

end LazyStyles.Meaning
