import LazyStyles.Options.Basic
import LazyStyles.Json.Reader
import LazyStyles.Text.Quoted

/-!
# Options from a config text

A config is a JSON object with the fields `include`, `exclude` and `cwd` in any order, each at most once,
or an array of their values in that order; what is missing or null is the default.  A pattern list may
be a single pattern.  A text of white space only is the default config.

A value that is well formed JSON and of the wrong kind is reported where the reader stands after it has
tried to close the config, so such a fault is kept without a place (`Stop.unplaced`) until then.
-/

namespace LazyStyles

namespace Options

open Json (Halt skipGap)
open Json.Reader

/-! ### Errors -/

/-- Why a text is not a config. -/
inductive Fault where
  /-- The text is not JSON. -/
  | json (fault : Json.Fault)
  /-- `include` or `exclude` is neither null, a string nor a list of strings. -/
  | notPatterns
  | unknownField (name : String)
  | duplicateField (name : String)
  /-- A value of another kind than `expected`; `found` describes it. -/
  | wrongType (found expected : String)

/-- The wording of a fault. -/
def Fault.message : Fault → String
  | json f => f.message
  | notPatterns => "data did not match any variant of untagged enum OneOrMany"
  | unknownField x => "unknown field `" ++ x ++ "`, expected one of `include`, `exclude`, `cwd`"
  | duplicateField x => "duplicate field `" ++ x ++ "`"
  | wrongType found expected => "invalid type: " ++ found ++ ", expected " ++ expected

/-- A fault of a config text with its place: the line, and the number of bytes read in that line. -/
structure Error where
  fault : Fault
  line : Nat
  column : Nat

/-- The wording of an error. -/
def Error.message (e : Error) : String :=
  e.fault.message ++ " at line " ++ toString e.line ++ " column " ++ toString e.column

/-- The place after `n` bytes of a text: the line, and the number of bytes after the last line feed. -/
def place (bytes : List UInt8) (n : Nat) : Nat × Nat :=
  let read := bytes.take n
  (1 + read.count 10, (read.reverse.takeWhile (· != 10)).length)

/-! ### Reading -/

/-- Why the reader stopped: at a known place, or before the place was fixed. -/
inductive Stop where
  | placed (fault : Fault) (unread : Nat)
  | unplaced (fault : Fault) (rest : List Char)

/-- The fault of a stop. -/
def Stop.fault : Stop → Fault
  | placed f _ => f
  | unplaced f _ => f

/-- The number of bytes that were unread at a stop. -/
def Stop.unread : Stop → Nat
  | placed _ n => n
  | unplaced _ rest => byteSize rest

/-- A step of the reader. -/
abbrev Step (α : Type) := Except Stop α

/-- A step of the JSON reader. -/
def ofJson {α : Type} (r : Except Halt α) : Step α :=
  r.mapError fun h => .placed (.json h.fault) h.unread

/-- The bound on nested arrays and objects inside the config itself. -/
def depthLimit : Nat := 126

/-- One JSON value off the front of `s`. -/
def jsonValue (s : List Char) : Step (Json × List Char) :=
  ofJson (Json.value (2 * s.length + 4) depthLimit s)

/-- The strings of a list, if all elements are strings. -/
def strings? : List Json → Option (List String)
  | [] => some []
  | .string s :: xs => (strings? xs).map (s :: ·)
  | _ :: _ => none

/-- The patterns that a value stands for: null is none, a string is one. -/
def patterns? : Json → Option (List String)
  | .null => some []
  | .string s => some [s]
  | .array xs => strings? xs
  | _ => none

/-- A pattern list off the front of `s`. -/
def readPatterns (s : List Char) : Step (List String × List Char) := do
  let (v, r) ← jsonValue s
  match patterns? v with
  | some ps => return (ps, r)
  | none => throw (.unplaced .notPatterns r)

/-- A scalar as a message describes it. -/
def describe : Json → String
  | .null => "null"
  | .bool b => "boolean `" ++ toString b ++ "`"
  | .integer i => "integer `" ++ toString i ++ "`"
  | .float negative m => "floating point `" ++ (if negative then "-" else "") ++ m.render ++ "`"
  | .string s => "string " ++ Text.quote s
  | .array _ => "sequence"
  | .object _ => "map"

/-- The fault of a value at the front of `s` that should have been `expected`.  A scalar is read first; an
array or object is reported where it opens. -/
def wrongType {α : Type} (expected : String) (s : List Char) : Step α :=
  match s with
  | '[' :: _ => throw (.placed (.wrongType "sequence" expected) (byteSize s))
  | '{' :: _ => throw (.placed (.wrongType "map" expected) (byteSize s))
  | _ => do
    let (v, r) ← jsonValue s
    throw (.placed (.wrongType (describe v) expected) (byteSize r))

/-- A directory or null off the front of `s`. -/
def readDirectory (s : List Char) : Step (Option String × List Char) :=
  let s := skipGap s
  match s with
  | [] => ofJson (.error (Json.haltAtByte .eofInValue s))
  | 'n' :: r => (ofJson (word "ull".toList r)).map (none, ·)
  | '"' :: r => (ofJson (quoted r)).map fun (t, r) => (some t, r)
  | _ => wrongType "a string" s

/-- The fields read so far. -/
structure Partial where
  included? : Option (List String) := none
  excluded? : Option (List String) := none
  cwd? : Option (Option String) := none

/-- The options that the fields read make. -/
def Partial.finish (p : Partial) : Options :=
  ⟨p.included?.getD [], p.excluded?.getD [], p.cwd?.getD none⟩

/-- The field `key`, `s` being the text after the key. -/
def readField (p : Partial) (key : String) (s : List Char) : Step (Partial × List Char) := do
  match key with
  | "include" =>
    if p.included?.isSome then throw (.unplaced (.duplicateField key) s)
    let (ps, r) ← readPatterns (← ofJson (colon s))
    return ({ p with included? := some ps }, r)
  | "exclude" =>
    if p.excluded?.isSome then throw (.unplaced (.duplicateField key) s)
    let (ps, r) ← readPatterns (← ofJson (colon s))
    return ({ p with excluded? := some ps }, r)
  | "cwd" =>
    if p.cwd?.isSome then throw (.unplaced (.duplicateField key) s)
    let (d, r) ← readDirectory (← ofJson (colon s))
    return ({ p with cwd? := some d }, r)
  | _ => throw (.unplaced (.unknownField key) s)

/-- The fields of an object up to and with its closing brace; `fuel` bounds their number. -/
def readFields (fuel : Nat) (first : Bool) (p : Partial) (s : List Char) :
    Step (Partial × List Char) :=
  match fuel with
  | 0 => throw (.placed (.json .tooDeep) (byteSize s))
  | fuel + 1 => do
    let (more, s) ← ofJson (nextMember first s)
    if more then
      let (key, s) ← ofJson (quoted s)
      let (p, s) ← readField p key s
      readFields fuel false p s
    else return (p, s.drop 1)

/-- Whether another element follows, and if so what `read` makes of it. -/
def readElement {α : Type} (first : Bool) (read : List Char → Step (α × List Char))
    (s : List Char) : Step (Option α × List Char) := do
  let (more, s) ← ofJson (nextElement first s)
  if more then (read s).map fun (x, r) => (some x, r) else return (none, s)

/-- The elements of an array up to and with its closing bracket. -/
def readElements (s : List Char) : Step (Partial × List Char) := do
  let (i, s) ← readElement true readPatterns s
  let (e, s) ← readElement i.isNone readPatterns s
  let (c, s) ← readElement (i.isNone || e.isNone) readDirectory s
  let s ← ofJson (endArray s)
  return (⟨i, e, c⟩, s)

/-- Where a stop without a place is placed: after the white space that follows and the object's closing
brace, if that comes next. -/
def closeObject {α : Type} : Step α → Step α
  | .error (.unplaced f rest) =>
    match skipGap rest with
    | '}' :: r => .error (.placed f (byteSize r))
    | r => .error (.placed f (byteSize r))
  | r => r

/-- Where a stop without a place is placed: after the white space that follows and the array's closing
bracket, or a comma and more white space. -/
def closeArray {α : Type} : Step α → Step α
  | .error (.unplaced f rest) =>
    match skipGap rest with
    | ']' :: r => .error (.placed f (byteSize r))
    | ',' :: r => .error (.placed f (byteSize (skipGap r)))
    | r => .error (.placed f (byteSize r))
  | r => r

/-- The config that a text is. -/
def readConfig (s : List Char) : Step Options := do
  let s := skipGap s
  let (p, r) ←
    match s with
    | [] => ofJson (.error (Json.haltAtByte .eofInValue s))
    | '[' :: r => closeArray (readElements r)
    | '{' :: r => closeObject (readFields (r.length + 1) true {} r)
    | _ => wrongType "struct Options" s
  match skipGap r with
  | [] => return p.finish
  | r => ofJson (.error (Json.haltAtByte .trailingCharacters r))

/-- The options that a config text stands for. -/
def ofConfig (config : String) : Except Error Options :=
  let s := config.toList
  if s.all Text.isBlank then .ok {}
  else
    (readConfig s).mapError fun stop =>
      let (line, column) := place (s.flatMap String.utf8EncodeChar) (byteSize s - stop.unread)
      ⟨stop.fault, line, column⟩

end Options

end LazyStyles
