import LazyStyles.Shape
import LazyStyles.Syntax.Parse

/-!
# Events

What is logged about a module.
-/

namespace LazyStyles

/-- How much an event matters. -/
inductive Level where
  | trace | debug | error
deriving DecidableEq, Repr

/-- Something to log about a module. -/
inductive Event where
  /-- The filter refuses the module's id. -/
  | skipped
  /-- The program is a script. -/
  | isScript
  /-- The module is none of the generated ones. -/
  | notGenerated (m : Mismatch)
  /-- Some piece of the module has no text. -/
  | withoutText
  /-- A lazy module takes the module's place. -/
  | deferred
  /-- The lazy module is refused by the parser. -/
  | unparsed (e : Syntax.ParseError)
deriving DecidableEq, Repr

namespace Event

def level : Event → Level
  | skipped | isScript => .trace
  | notGenerated _ | withoutText | deferred => .debug
  | unparsed _ => .error

/-- The wording of an event. -/
def message : Event → String
  | skipped => "skipped by filter"
  | isScript => "scripts are never css modules"
  | notGenerated _ => "not a generated css module"
  | withoutText => "css module literals have no raw text"
  | deferred => "deferring style injection"
  | unparsed _ => "generated module did not parse, keeping original"

end Event

end LazyStyles
