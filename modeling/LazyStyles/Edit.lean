import LazyStyles.Shape

/-!
# Edits

Changes that a host's other plugins may have made to a generated module before this one sees it: to one of
the pieces that vary, which are found by where they stand.  A module that has no such piece stays as it is.
-/

namespace LazyStyles.Edit

open Syntax

/-- The list with `f` applied at an index. -/
def modifyAt {α : Type} (f : α → α) : Nat → List α → List α
  | _, [] => []
  | 0, a :: as => f a :: as
  | n + 1, a :: as => a :: modifyAt f n as

/-- Changes the item at an index. -/
def item (index : Nat) (f : Item Leaves.host → Item Leaves.host) (m : HostModule) : HostModule :=
  { m with items := modifyAt f index m.items }

/-- Changes the literal that the stylesheet's variable starts with. -/
def css (f : Literal Leaves.host → Literal Leaves.host) : HostModule → HostModule :=
  item 0 fun
    | .statement (.variableDeclaration s k (.mk d t (some (.literal l)) :: ds)) =>
      .statement (.variableDeclaration s k (.mk d t (some (.literal (f l))) :: ds))
    | i => i

/-- Changes the import of the helper. -/
def helper (f : Import Leaves.host → Import Leaves.host) : HostModule → HostModule :=
  item 2 fun
    | .imports i => .imports (f i)
    | i => i

/-- Changes the properties of an object in parentheses. -/
def objectProperties (f : List (Property Leaves.host) → List (Property Leaves.host)) :
    HostExpr → HostExpr
  | .parenthesized s e => .parenthesized s (objectProperties f e)
  | .object s ps => .object s (f ps)
  | e => e

/-- Changes the property at an index of the class map. -/
def property (index : Nat) (f : Property Leaves.host → Property Leaves.host) : HostModule → HostModule :=
  item 1 fun
    | .exportDefault s e => .exportDefault s (objectProperties (modifyAt f index) e)
    | i => i

/-- Changes the key of the property at an index. -/
def key (index : Nat) (f : Key Leaves.host → Key Leaves.host) : HostModule → HostModule :=
  property index fun
    | .keyValue k v => .keyValue (f k) v
    | p => p

/-- Changes the value of the property at an index, if it is a literal. -/
def value (index : Nat) (f : Literal Leaves.host → Literal Leaves.host) : HostModule → HostModule :=
  property index fun
    | .keyValue k (.literal l) => .keyValue k (.literal (f l))
    | p => p

end LazyStyles.Edit
