import LazyStyles.Syntax.Lexeme

/-!
# Words

Identifiers and keywords.  A word may spell any of its characters as a Unicode escape (`unicodeEscape`,
which string literals use too).  The words that are never names are `keywords`; others are reserved only
in some places.
-/

namespace LazyStyles.Syntax

/-! ### Unicode escapes -/

/-- The number that digits denote in a base up to sixteen. -/
def numberIn (base : Nat) (ds : List Char) : Nat :=
  ds.foldl (fun n d => base * n + (Text.hexValue? d).getD 0) 0

/-- A code point by its escape. -/
structure CodePoint where
  code : Nat
  /-- How many characters the escape takes after its `\u`. -/
  length : Nat
deriving DecidableEq, Repr

/-- Reads an escape after its `\u`: four digits, or digits in braces. -/
def unicodeEscape : List Char → Except Flaw CodePoint
  | '\x7b' :: s =>
    let ds := s.takeWhile fun c => (Text.hexValue? c).isSome
    let n := numberIn 16 ds
    if ds.isEmpty || Nat.pow 2 32 ≤ n then .error ⟨1 + ds.length, .badEscape "1-6 hex characters"⟩
    else if 0x110000 ≤ n then
      .error ⟨1 + ds.length, .badEscape "1-6 hex characters in the range 0 to 10FFFF."⟩
    else if (s.drop ds.length).head? == some '\x7d' then .ok ⟨n, ds.length + 2⟩
    else .error ⟨1 + ds.length, .invalidUnicodeEscape⟩
  | s =>
    let ds := (s.take 4).takeWhile fun c => (Text.hexValue? c).isSome
    if ds.length = 4 then .ok ⟨numberIn 16 ds, 4⟩ else .error ⟨ds.length, .badEscape "4 hex characters"⟩

/-- The characters that an escape stands for.  A code that is no character stands for the spelling of the
escape itself. -/
def CodePoint.chars (p : CodePoint) (spelling : List Char) : List Char :=
  if p.code.isValidChar then [Char.ofNat p.code] else '\\' :: 'u' :: spelling.take p.length

/-! ### Scanning -/

/-- An identifier or a keyword. -/
structure Word where
  name : String
  /-- Whether some character is spelled as an escape. -/
  isEscaped : Bool
deriving DecidableEq, Repr

/-- Whether `c` may be the character at `offset` of a word. -/
def isWordChar (offset : Nat) (c : Char) : Bool :=
  if offset = 0 then Text.opensIdentifier c else Text.continuesIdentifier c

/-- Reads a word on from `offset`, where `skip` characters belong to an escape that has been read. -/
def wordFrom : (skip offset : Nat) → List Char → Except Flaw (Reading (List Char × Bool))
  | _, n, [] => .ok ⟨([], false), n, []⟩
  | k + 1, n, _ :: s => wordFrom k (n + 1) s
  | 0, n, '\\' :: s =>
    match s with
    | 'u' :: t =>
      match unicodeEscape t with
      | .error f => .error ⟨n + 2 + f.offset, f.fault⟩
      | .ok p => do
        let cs := p.chars t
        let r ← wordFrom (1 + p.length) (n + 1) s
        let flaws := if cs.length = 1 && cs.all (isWordChar n) then [] else [⟨n, .notInIdentifier⟩]
        return ⟨(cs ++ r.value.1, true), r.length, flaws ++ r.flaws⟩
    | _ => .error ⟨n, .expectedUnicodeEscape⟩
  | 0, n, c :: s =>
    if isWordChar n c then do
      let r ← wordFrom 0 (n + 1) s
      return ⟨(c :: r.value.1, r.value.2), r.length, r.flaws⟩
    else .ok ⟨([], false), n, []⟩

theorem isWordChar_backslash (offset : Nat) : isWordChar offset '\\' = false := by
  cases offset <;> rfl

/-- A character that may stand in a word is taken as it is. -/
theorem wordFrom_of_isWordChar {n : Nat} {c : Char} {s : List Char} (hc : isWordChar n c = true) :
    wordFrom 0 n (c :: s) = do
      let r ← wordFrom 0 (n + 1) s
      return ⟨(c :: r.value.1, r.value.2), r.length, r.flaws⟩ := by
  have hne : c ≠ '\\' := by
    rintro rfl
    exact Bool.false_ne_true ((isWordChar_backslash n).symm.trans hc)
  rw [wordFrom.eq_5 _ _ _ hne, if_pos hc]

/-- Reads the word at the front of a text. -/
def scanWord : Scanner Word := fun s => do
  let r ← wordFrom 0 0 s
  return ⟨⟨String.ofList r.value.1, r.value.2⟩, r.length, r.flaws⟩

/-! ### Reserved words -/

/-- The words that are never names. -/
def keywords : List String :=
  ["break", "case", "catch", "class", "const", "continue", "debugger", "default", "delete", "do", "else",
   "export", "extends", "false", "finally", "for", "function", "if", "import", "in", "instanceof", "new",
   "null", "return", "super", "switch", "this", "throw", "true", "try", "typeof", "var", "void", "while",
   "with", "enum"]

/-- The words that are kept for later in strict code. -/
def futureWords : List String :=
  ["implements", "interface", "package", "private", "protected", "public"]

end LazyStyles.Syntax
