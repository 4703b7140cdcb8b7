import LazyStyles.Syntax.Host

/-!
# Generated modules

A module that the compiler of stylesheets generates has four statements: the text of the stylesheet as a
variable, the map of its class names as the default export, the import of a helper, and the call that
injects the stylesheet.  `Shape.ofModule` recognises such a module and takes out the three pieces that vary,
or names the first statement that is otherwise (`Mismatch`).
-/

namespace LazyStyles

open Syntax

/-- The variable that holds the stylesheet. -/
def cssName : String := "css"

/-- The local name of the helper. -/
def helperName : String := "styleInject"

/-- How the name of the helper's module ends. -/
def helperPath : String := "style-inject/dist/style-inject.es.js"

/-- The pieces of a generated module. -/
structure Shape where
  css : StrNode
  classMap : List (Property Leaves.host)
  helper : StrNode

/-- What the first part is that makes a module none of the generated ones. -/
inductive Mismatch where
  | statementCount (n : Nat)
  | cssBinding
  | defaultExport
  | classMapProperty (index : Nat)
  | helperImport
  | helperSource
  | injectCall
deriving DecidableEq, Repr

/-- The name of a mismatch. -/
def Mismatch.name : Mismatch → String
  | statementCount _ => "StatementCount"
  | cssBinding => "CssBinding"
  | defaultExport => "DefaultExport"
  | classMapProperty _ => "ClassMapProperty"
  | helperImport => "HelperImport"
  | helperSource => "HelperSource"
  | injectCall => "InjectCall"

/-- The number that goes with a mismatch. -/
def Mismatch.number? : Mismatch → Option Nat
  | statementCount n | classMapProperty n => some n
  | _ => none

/-- A mismatch in a log. -/
def Mismatch.text (m : Mismatch) : String :=
  match m.number? with
  | some n => m.name ++ "(" ++ toString n ++ ")"
  | none => m.name

/-! ### The four statements -/

/-- The stylesheet in the declaration of its variable. -/
def cssIn? : Item Leaves.host → Option StrNode
  | .statement (.variableDeclaration _ kind [.mk _ (.ident i) (some (.literal (.str s)))]) =>
    if IdentNode.name i = cssName ∧ kind ≠ .using then some s else none
  | _ => none

/-- An expression without the parentheses around it. -/
def withoutParentheses {L : Leaves} : Expr L → Expr L
  | .parenthesized _ e => withoutParentheses e
  | e => e

/-- Whether a key is written out and not computed. -/
def isPlainKey {L : Leaves} : Key L → Bool
  | .ident _ | .str _ | .numeral _ => true
  | .computed .. | .privateName .. => false

/-- Whether an expression is a literal as a program can write it. -/
def isPlainLiteral {L : Leaves} : Expr L → Bool
  | .literal (.jsxText _) => false
  | .literal _ => true
  | _ => false

/-- Whether a property gives a literal for a plain key. -/
def isLiteralProperty {L : Leaves} : Property L → Bool
  | .keyValue k v => isPlainKey k && isPlainLiteral v
  | _ => false

/-- The properties of the object that is exported by default. -/
def exportedObject? : Item Leaves.host → Option (List (Property Leaves.host))
  | .exportDefault _ e =>
    match withoutParentheses e with
    | .object _ ps => some ps
    | _ => none
  | _ => none

/-- The class map in its export. -/
def classMapIn (i : Item Leaves.host) : Except Mismatch (List (Property Leaves.host)) :=
  match exportedObject? i with
  | none => .error .defaultExport
  | some ps =>
    match ps.findIdx? fun p => !isLiteralProperty p with
    | some index => .error (.classMapProperty index)
    | none => .ok ps

/-- The source of the helper in its import. -/
def helperIn (i : Item Leaves.host) : Except Mismatch StrNode :=
  match i with
  | .imports i =>
    match i.specifiers with
    | [.default _ n] =>
      if i.isTypeOnly || i.attributes.isSome || i.phase != .evaluation ||
          IdentNode.name n != helperName then .error .helperImport
      else
        let source : StrNode := i.source
        if helperPath.toList.isSuffixOf source.value.toList then .ok source
        else .error .helperSource
    | _ => .error .helperImport
  | _ => .error .helperImport

/-- Whether a statement calls the helper with one argument. -/
def isInjectCall : Item Leaves.host → Bool
  | .statement (.expression _ (.call _ (.ident i) false [.item _])) => IdentNode.name i == helperName
  | _ => false

/-- The pieces of a generated module. -/
def Shape.ofModule (m : HostModule) : Except Mismatch Shape :=
  match m.items with
  | [a, b, c, d] => do
    let css ← match cssIn? a with
      | some s => pure s
      | none => .error .cssBinding
    let ps ← classMapIn b
    let helper ← helperIn c
    if isInjectCall d then return ⟨css, ps, helper⟩ else .error .injectCall
  | is => .error (.statementCount is.length)

/-- The pieces by where they stand, whatever else the module may be. -/
def Shape.piecesOf? (m : HostModule) : Option Shape :=
  match m.items with
  | .statement (.variableDeclaration _ _ (.mk _ _ (some (.literal (.str css))) :: _)) :: b :: .imports i :: _ =>
    (exportedObject? b).map fun ps => ⟨css, ps, i.source⟩
  | _ => none

end LazyStyles
