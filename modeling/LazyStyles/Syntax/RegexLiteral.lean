import LazyStyles.Syntax.Lexeme

/-!
# Regular expression literals

Only where a literal ends is looked at, and its flags; the inside of its pattern is not.
-/

namespace LazyStyles.Syntax

structure Regex where
  pattern : String
  flags : String
deriving DecidableEq, Repr

/-- The literal as it is written. -/
def Regex.text (r : Regex) : String :=
  "/" ++ r.pattern ++ "/" ++ r.flags

/-- The pattern at the front of a text, up to the slash that ends it, if there is one.  Inside brackets a
slash ends nothing. -/
def patternOf? : (inBrackets : Bool) → List Char → Option (List Char)
  | _, [] => none
  | _, ['\\'] => none
  | b, '\\' :: c :: s =>
    if Text.isLineTerminator c then none else (patternOf? b s).map fun t => '\\' :: c :: t
  | b, c :: s =>
    if Text.isLineTerminator c then none
    else if c = '/' && !b then some []
    else (patternOf? (if c = '[' then true else if c = ']' then false else b) s).map (c :: ·)

/-- The first character of `s` that occurs in it again. -/
def firstRepeated? : List Char → Option Char
  | [] => none
  | c :: s => if s.contains c then some c else firstRepeated? s

/-- The flaws of the flags of a literal. -/
def flagFlaws (flags : List Char) : List Flaw :=
  (if flags.all "dgimsuvy".toList.contains then [] else [⟨0, .unknownFlags⟩]) ++
    (firstRepeated? flags).toList.map fun c => ⟨0, .duplicateFlag c⟩

/-- Reads the regular expression literal at the front of a text. -/
def scanRegex : Scanner Regex := fun s =>
  match patternOf? false (s.drop 1) with
  | none => .error ⟨0, .unterminatedRegex⟩
  | some p =>
    let flags := (s.drop (p.length + 2)).takeWhile Text.continuesIdentifier
    .ok ⟨⟨String.ofList p, String.ofList flags⟩, p.length + 2 + flags.length, flagFlaws flags⟩

end LazyStyles.Syntax
