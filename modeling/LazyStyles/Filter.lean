import LazyStyles.Options.Basic
import LazyStyles.Glob.Pattern
import LazyStyles.Glob.Form
import LazyStyles.Glob.Expression

/-!
# Filters

A filter decides which module ids are candidates: those that some pattern to include matches, if there are
any, and no pattern to exclude.  Separators may be written either way in patterns, in the directory and in
ids.  An id with a null character names a module without a file and is never a candidate.
-/

namespace LazyStyles

namespace Filter

/-! ### Errors -/

/-- The two lists of patterns. -/
inductive Role where
  | included
  | excluded
deriving DecidableEq, Repr

/-- The name of the list in the options. -/
def Role.name : Role → String
  | included => "include"
  | excluded => "exclude"

/-- Why a list of patterns makes no set. -/
inductive Cause where
  /-- A pattern is no glob; `glob` is its resolved form. -/
  | notGlob (glob : String) (fault : Glob.Fault)
  /-- A glob that has to end in an extension nests too deeply. -/
  | tooDeep (expression : String)
  /-- Of the other globs that are searched for, the one at `index` nests too deeply. -/
  | tooDeepAt (index : Nat)
deriving DecidableEq, Repr

/-- The wording of a cause. -/
def Cause.message : Cause → String
  | notGlob glob fault => "error parsing glob '" ++ glob ++ "': " ++ fault.message
  | tooDeep expression => "error parsing glob '" ++ expression ++ "': error parsing pattern 0"
  | tooDeepAt index => "error parsing pattern " ++ toString index

/-- A list of patterns that makes no set, with the pattern at fault as the user wrote it, or all
patterns of the list if the fault is none of a single one. -/
structure Error where
  role : Role
  pattern : String
  cause : Cause
deriving DecidableEq, Repr

/-- The wording of an error. -/
def Error.message (e : Error) : String :=
  "invalid " ++ e.role.name ++ " pattern `" ++ e.pattern ++ "`: " ++ e.cause.message

/-! ### Resolving patterns -/

/-- A text with all separators written the same way. -/
def withSlashes (s : List Char) : List Char :=
  s.map fun c => if c = '\\' then '/' else c

theorem mem_withSlashes {s : List Char} {c : Char} (h : c ∈ withSlashes s) : c ∈ s ∨ c = '/' := by
  obtain ⟨d, hd, rfl⟩ := List.mem_map.mp h
  split
  · exact .inr rfl
  · exact .inl hd

theorem backslash_notMem_withSlashes (s : List Char) : '\\' ∉ withSlashes s := by
  intro h
  obtain ⟨d, -, hd⟩ := List.mem_map.mp h
  split at hd
  case isTrue => exact absurd hd (by decide)
  case isFalse h => exact h hd

theorem withSlashes_eq_self {s : List Char} (hs : '\\' ∉ s) : withSlashes s = s := by
  have hmap : withSlashes s = s.map id := by
    refine List.map_congr_left fun c hc => if_neg ?_
    rintro rfl
    exact hs hc
  rw [hmap, List.map_id]

/-- Whether a pattern starts with a drive, as in `C:/`. -/
def hasDrive : List Char → Bool
  | d :: ':' :: '/' :: _ => d.isAlpha
  | _ => false

/-- Whether a pattern does not depend on a directory. -/
def isAbsolute (pattern : List Char) : Bool :=
  pattern.head? == some '/' || hasDrive pattern

/-- `s` without the separators at its end. -/
def dropFinalSlashes (s : List Char) : List Char :=
  (s.reverse.dropWhile (· == '/')).reverse

/-- `s` without one `./` at its front. -/
def dropHere : List Char → List Char
  | '.' :: '/' :: s => s
  | s => s

/-- The pattern as it is matched: a relative one stands below the directory, if there is one, unless it
starts with a star. -/
def resolve (cwd : Option (List Char)) (pattern : List Char) : List Char :=
  let pattern := withSlashes pattern
  match cwd with
  | none => pattern
  | some dir =>
    if isAbsolute pattern || pattern.head? == some '*' then pattern
    else dropFinalSlashes (withSlashes dir) ++ '/' :: dropHere pattern

/-! ### Sets -/

/-- The first glob of `gs` that nests too deeply, among those that have to end in an extension, or else its
place among the other globs that are searched for. -/
def tooDeep? (gs : List Glob) : Option Cause :=
  match gs.find? fun g => g.form == .searchWithExtension && g.isTooDeep with
  | some g => some (.tooDeep g.expression)
  | none => ((gs.filter (·.form == .search)).findIdx? Glob.isTooDeep).map .tooDeepAt

/-- The globs of the patterns, the first that is none at fault. -/
def globs (role : Role) (cwd : Option String) (patterns : List String) : Except Error (List Glob) :=
  patterns.mapM fun p =>
    let resolved := String.ofList (resolve (cwd.map String.toList) p.toList)
    (Glob.ofPattern resolved).mapError fun f => ⟨role, p, .notGlob resolved f⟩

/-- The set that a list of patterns makes; an empty list makes none. -/
def set? (role : Role) (cwd : Option String) (patterns : List String) :
    Except Error (Option (List Glob)) :=
  if patterns.isEmpty then .ok none
  else do
    let gs ← globs role cwd patterns
    match tooDeep? gs with
    | some cause => .error ⟨role, ", ".intercalate patterns, cause⟩
    | none => .ok (some gs)

end Filter

/-- The candidates among module ids. -/
structure Filter where
  /-- The globs of which one has to match, if there is a set of them. -/
  included : Option (List Glob)
  /-- The globs of which none may match. -/
  excluded : Option (List Glob)

namespace Filter

/-- The filter that accepts every id of a file. -/
def all : Filter := ⟨none, none⟩

/-- The filter that options describe. -/
def ofOptions (o : Options) : Except Error Filter := do
  let i ← set? .included o.cwd o.included
  let e ← set? .excluded o.cwd o.excluded
  return ⟨i, e⟩

/-- Whether some glob of the set matches. -/
def setMatches (gs : List Glob) (path : List UInt8) : Bool :=
  gs.any (·.matchesBytes path)

/-- Whether the module with this id is a candidate. -/
def accepts (f : Filter) (id : String) : Bool :=
  if id.toList.contains '\x00' then false
  else
    let path := Glob.bytesOf (withSlashes id.toList)
    let refused := match f.excluded with
      | some gs => setMatches gs path
      | none => false
    let taken := match f.included with
      | some gs => setMatches gs path
      | none => true
    !refused && taken

end Filter

end LazyStyles
