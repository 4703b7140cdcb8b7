/-!
# Syntax trees

The syntax tree of a module or a script.  A tree is built over a family of leaves (`Leaves`): what stands
for a span, a name and each kind of literal.  A tree fresh from a source text has the lexemes of that text
as leaves; a tree that a host hands over has records which may or may not remember a text.

Bindings and assignment targets are expressions too: arrays and objects serve as patterns, an assignment
as a binding with a default.
-/

namespace LazyStyles.Syntax

/-- What the leaves of a tree are. -/
structure Leaves where
  Span : Type
  Ident : Type
  Str : Type
  Numeral : Type
  /-- The literals that are words: `true`, `false` and `null`. -/
  Constant : Type
  Regex : Type
  JsxText : Type
  /-- A stretch of text in a template. -/
  Chunk : Type

inductive UnaryOperator where
  | minus | plus | not | bitNot | typeOf | void | delete
deriving DecidableEq, Repr

inductive BinaryOperator where
  | nullish | or | and | bitOr | bitXor | bitAnd
  | equal | notEqual | identical | notIdentical
  | less | lessEqual | greater | greaterEqual | memberOf | instanceOf
  | shiftLeft | shiftRight | shiftRightUnsigned
  | add | subtract | multiply | divide | remainder | power
deriving DecidableEq, Repr

/-- When a module is to be loaded and run. -/
inductive Phase where
  | evaluation | source | defer
deriving DecidableEq, Repr

inductive DeclarationKind where
  | var | let | const | using
deriving DecidableEq, Repr

inductive MethodKind where
  | plain | getter | setter | constructor
deriving DecidableEq, Repr

/-- A literal other than a template. -/
inductive Literal (L : Leaves) where
  | str (s : L.Str)
  | numeral (n : L.Numeral)
  | constant (c : L.Constant)
  | regex (r : L.Regex)
  | jsxText (t : L.JsxText)

mutual

inductive Expr (L : Leaves) where
  | literal (l : Literal L)
  | ident (i : L.Ident)
  | this (s : L.Span)
  /-- The word `super`, of which only a member or a call is an expression. -/
  | superWord (s : L.Span)
  /-- The word `import` as what is called. -/
  | importWord (s : L.Span) (phase : Phase)
  | privateName (s : L.Span) (name : L.Ident)
  | importMeta (s : L.Span)
  | newTarget (s : L.Span)
  | array (s : L.Span) (elements : List (Element L))
  | object (s : L.Span) (properties : List (Property L))
  | function (f : Function L)
  | arrow (s : L.Span) (isAsync : Bool) (parameters : List (Element L)) (body : Statement L)
  | classExpr (c : Class L)
  | template (s : L.Span) (parts : List (TemplatePart L))
  | taggedTemplate (s : L.Span) (tag : Expr L) (parts : List (TemplatePart L))
  | member (s : L.Span) (object : Expr L) (optional : Bool) (name : L.Ident)
  | privateMember (s : L.Span) (object : Expr L) (optional : Bool) (name : L.Ident)
  | index (s : L.Span) (object : Expr L) (optional : Bool) (key : Expr L)
  | call (s : L.Span) (callee : Expr L) (optional : Bool) (arguments : List (Element L))
  | new (s : L.Span) (callee : Expr L) (arguments : List (Element L))
  | unary (s : L.Span) (operator : UnaryOperator) (operand : Expr L)
  | update (s : L.Span) (isIncrement isBefore : Bool) (operand : Expr L)
  | binary (s : L.Span) (operator : BinaryOperator) (left right : Expr L)
  /-- An assignment, compound if there is an operator. -/
  | assignment (s : L.Span) (operator : Option BinaryOperator) (target value : Expr L)
  | conditional (s : L.Span) (test yes no : Expr L)
  | sequence (s : L.Span) (expressions : List (Expr L))
  | yield (s : L.Span) (delegates : Bool) (argument : Option (Expr L))
  | await (s : L.Span) (operand : Expr L)
  | parenthesized (s : L.Span) (inner : Expr L)

/-- What stands between the commas of an array, of arguments or of parameters. -/
inductive Element (L : Leaves) where
  | hole
  | item (e : Expr L)
  | spread (s : L.Span) (e : Expr L)

/-- A member of an object literal or pattern. -/
inductive Property (L : Leaves) where
  | keyValue (key : Key L) (value : Expr L)
  | shorthand (name : L.Ident) (fallback : Option (Expr L))
  | method (s : L.Span) (kind : MethodKind) (key : Key L) (f : Function L)
  | spread (s : L.Span) (e : Expr L)

/-- The name of a property. -/
inductive Key (L : Leaves) where
  | ident (i : L.Ident)
  | str (s : L.Str)
  | numeral (n : L.Numeral)
  | computed (s : L.Span) (e : Expr L)
  | privateName (s : L.Span) (name : L.Ident)

inductive Function (L : Leaves) where
  | mk (s : L.Span) (name : Option L.Ident) (isAsync isGenerator : Bool)
      (parameters : List (Element L)) (body : List (Statement L))

inductive Class (L : Leaves) where
  | mk (s : L.Span) (name : Option L.Ident) (heritage : Option (Expr L))
      (members : List (ClassMember L))

inductive ClassMember (L : Leaves) where
  | empty (s : L.Span)
  | field (s : L.Span) (isStatic : Bool) (key : Key L) (value : Option (Expr L))
  | method (s : L.Span) (isStatic : Bool) (kind : MethodKind) (key : Key L) (f : Function L)
  | staticBlock (s : L.Span) (body : List (Statement L))

inductive TemplatePart (L : Leaves) where
  | chunk (c : L.Chunk)
  | hole (e : Expr L)

inductive Declarator (L : Leaves) where
  | mk (s : L.Span) (target : Expr L) (initial : Option (Expr L))

inductive SwitchCase (L : Leaves) where
  | mk (s : L.Span) (test : Option (Expr L)) (body : List (Statement L))

inductive Handler (L : Leaves) where
  | mk (s : L.Span) (parameter : Option (Expr L)) (body : Statement L)

inductive Statement (L : Leaves) where
  | block (s : L.Span) (body : List (Statement L))
  | empty (s : L.Span)
  | expression (s : L.Span) (e : Expr L)
  | variableDeclaration (s : L.Span) (kind : DeclarationKind) (declarators : List (Declarator L))
  | function (f : Function L)
  | classDeclaration (c : Class L)
  | conditional (s : L.Span) (test : Expr L) (yes : Statement L) (no : Option (Statement L))
  | forLoop (s : L.Span) (initial : Option (Statement L)) (test update : Option (Expr L))
      (body : Statement L)
  | forIn (s : L.Span) (head : Statement L) (object : Expr L) (body : Statement L)
  | forOf (s : L.Span) (isAwait : Bool) (head : Statement L) (object : Expr L) (body : Statement L)
  | whileLoop (s : L.Span) (test : Expr L) (body : Statement L)
  | doWhile (s : L.Span) (body : Statement L) (test : Expr L)
  | returns (s : L.Span) (value : Option (Expr L))
  | throws (s : L.Span) (value : Expr L)
  | breaks (s : L.Span) (label : Option L.Ident)
  | continues (s : L.Span) (label : Option L.Ident)
  | withObject (s : L.Span) (object : Expr L) (body : Statement L)
  | labelled (s : L.Span) (label : L.Ident) (body : Statement L)
  | switch (s : L.Span) (subject : Expr L) (cases : List (SwitchCase L))
  | tryCatch (s : L.Span) (body : Statement L) (handler : Option (Handler L))
      (finalizer : Option (Statement L))
  | debugger (s : L.Span)

end

/-! ### Module items -/

/-- A name across a module's boundary. -/
inductive ModuleName (L : Leaves) where
  | ident (i : L.Ident)
  | str (s : L.Str)

inductive ImportSpecifier (L : Leaves) where
  | default (s : L.Span) (name : L.Ident)
  | namespace (s : L.Span) (name : L.Ident)
  | named (s : L.Span) (imported : Option (ModuleName L)) (name : L.Ident)

inductive ExportSpecifier (L : Leaves) where
  | namespace (s : L.Span) (name : ModuleName L)
  | named (s : L.Span) (name : ModuleName L) (exported : Option (ModuleName L))

structure Import (L : Leaves) where
  span : L.Span
  specifiers : List (ImportSpecifier L)
  source : L.Str
  isTypeOnly : Bool
  attributes : Option (Expr L)
  phase : Phase

/-- A statement at the top of a module or a script. -/
inductive Item (L : Leaves) where
  | statement (s : Statement L)
  | imports (i : Import L)
  /-- An exported variable, function or class declaration. -/
  | exportDeclaration (s : L.Span) (declaration : Statement L)
  | exportNames (s : L.Span) (specifiers : List (ExportSpecifier L)) (source : Option L.Str)
  /-- A function or class declaration after `export default`. -/
  | exportDefaultDeclaration (s : L.Span) (declaration : Statement L)
  | exportDefault (s : L.Span) (value : Expr L)
  | exportAll (s : L.Span) (source : L.Str)

/-- A whole module or script. -/
structure Module (L : Leaves) where
  span : L.Span
  items : List (Item L)

end LazyStyles.Syntax
