import LazyStyles.Syntax.Reader.Item

/-!
# Reading modules and scripts

The readers of all constructs are tied together level by level (`Grammar.level`); a source of `n` characters
has no use for more than `depthFor n` levels.  `readItems` reads the whole of a source.  A fault that ended the
reading comes before those that were only reported, and of these the first counts.
-/

namespace LazyStyles.Syntax

variable {src : List Char}

namespace Grammar

/-- The grammar one level above `g`. -/
def step (g : Grammar src) : Grammar src where
  fuel := g.fuel
  assignment := Reader.assignment g
  operand := Reader.operand g
  access := Reader.access g
  member := Reader.member g
  target := Reader.target g
  statement := Reader.statement g

section Step

variable (g : Grammar src) (leads : Bool)

@[simp] theorem step_fuel : g.step.fuel = g.fuel := (rfl)

@[simp] theorem step_assignment : g.step.assignment = Reader.assignment g := (rfl)

@[simp] theorem step_operand : g.step.operand leads = Reader.operand g leads := (rfl)

@[simp] theorem step_access : g.step.access leads = Reader.access g leads := (rfl)

@[simp] theorem step_member : g.step.member leads = Reader.member g leads := (rfl)

@[simp] theorem step_target (refusesLet : Bool) : g.step.target refusesLet = Reader.target g refusesLet := (rfl)

@[simp] theorem step_statement (mayDeclare : Bool) :
    g.step.statement mayDeclare = Reader.statement g mayDeclare := (rfl)

end Step

-- Towers of levels are compared as they are built, and not reader by reader.
attribute [irreducible] step

/-- The grammar of constructs nested less than `n` deep, for lists shorter than `fuel`. -/
def level (fuel n : Nat) : Grammar src :=
  n.repeat step { none with fuel := fuel }

/-- How many levels a source of `n` characters may need: each of its characters opens constructs of four
levels at most, one inside the other. -/
def depthFor (n : Nat) : Nat := 4 * n + 16

end Grammar

/-- What stands before the first token of a source that is to be passed over as a whole: a first line for
the shell. -/
def shellLine : List Char → Nat
  | '#' :: '!' :: s => 2 + (s.takeWhile fun c => !Text.isLineTerminator c).length
  | _ => 0

/-- A source that has been read: its items, and the extent of its tokens if there are any. -/
structure Read (src : List Char) where
  items : List (Item (Leaves.ofSource src))
  extent? : Option (Extent src)

/-- Reads all of `src` as a module or a script; `hasShellLine` allows a line for the shell in front. -/
def readItems (src : List Char) (isModule hasShellLine : Bool) : Except (Issue src) (Read src) :=
  let skipped := if hasShellLine then shellLine src else 0
  let p := Place.first.advance skipped
  let c := Context.initial isModule
  let t : Lexed src := Token.scan c.reserves true p
  let found := t.issues.filter fun i => c.minds i.fault
  let s : State src :=
    ⟨t.token, t.start, t.stop, t.isOnNewLine || t.token.isFinish, ⟨p, p⟩, found.head?, []⟩
  let g := Grammar.level (src.length + 2) (Grammar.depthFor src.length)
  match (Reader.items g g.fuel true).run c s with
  | .error i _ => .error i
  | .ok items s' =>
    match s'.issue? with
    | some i => .error i
    | none =>
      let start := if 0 < skipped then Place.first else t.start
      .ok ⟨items, if 0 < skipped || !t.token.isFinish then some ⟨start, s'.previous.stop⟩ else none⟩

end LazyStyles.Syntax
