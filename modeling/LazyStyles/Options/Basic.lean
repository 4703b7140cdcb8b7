/-!
# Options

What a user may configure: which module ids are candidates, and the directory that relative patterns
are about.
-/

namespace LazyStyles

/-- The settings of the plugin. -/
structure Options where
  /-- Patterns of the ids to take; none means every id. -/
  included : List String := []
  /-- Patterns of the ids to leave alone. -/
  excluded : List String := []
  /-- The directory that relative patterns are resolved against. -/
  cwd : Option String := none
deriving DecidableEq, Repr, Inhabited

end LazyStyles
