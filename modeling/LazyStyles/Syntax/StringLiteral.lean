import LazyStyles.Syntax.Word

/-!
# String literals and template text

A string literal is delimited first (`contentOf`) and decoded afterwards (`decode`); template text goes the
same way, with `${` and the backtick as its ends.  The escapes are those of both (`escape`).
-/

namespace LazyStyles.Syntax

/-! ### Escapes -/

/-- What an escape stands for. -/
structure Escape where
  chars : List Char
  /-- How many characters it takes after the backslash. -/
  length : Nat
  /-- Whether it is a number in base eight, which strict code and templates refuse. -/
  isOctal : Bool
deriving DecidableEq, Repr

/-- The value of a digit in base eight. -/
def octalValue? (c : Char) : Option Nat :=
  if '0' ≤ c ∧ c ≤ '7' then some (c.toNat - '0'.toNat) else none

/-- Reads digits in base eight on from the value `v`, at most `k` of them, as long as the value stays below
256: the value and how many were read. -/
def octalFrom : (k v : Nat) → List Char → Nat × Nat
  | 0, v, _ => (v, 0)
  | _ + 1, v, [] => (v, 0)
  | k + 1, v, c :: s =>
    match octalValue? c with
    | some d =>
      if 8 * v + d < 256 then
        let (w, n) := octalFrom k (8 * v + d) s
        (w, n + 1)
      else (v, 0)
    | none => (v, 0)

/-- The character that a letter stands for after a backslash. -/
def controlEscape? (c : Char) : Option Char :=
  if c = 'n' then some '\n'
  else if c = 'r' then some '\r'
  else if c = 't' then some '\t'
  else if c = 'b' then some '\x08'
  else if c = 'v' then some '\x0b'
  else if c = 'f' then some '\x0c'
  else none

/-- Reads an escape after its backslash. -/
def escape : List Char → Except Fault Escape
  | [] => .error .invalidStringEscape
  | '\r' :: '\n' :: _ => .ok ⟨[], 2, false⟩
  | 'x' :: s =>
    let ds := (s.take 2).takeWhile fun c => (Text.hexValue? c).isSome
    if ds.length = 2 then .ok ⟨[Char.ofNat (numberIn 16 ds)], 3, false⟩
    else .error (.badEscape "2 hex characters")
  | 'u' :: s =>
    match unicodeEscape s with
    | .ok p => .ok ⟨p.chars s, p.length + 1, false⟩
    | .error f => .error f.fault
  | c :: s =>
    if Text.isLineTerminator c then .ok ⟨[], 1, false⟩
    else
      match controlEscape? c, octalValue? c with
      | some d, _ => .ok ⟨[d], 1, false⟩
      | none, some v =>
        if c = '0' && !(s.head?.any fun d => (octalValue? d).isSome) then .ok ⟨['\x00'], 1, false⟩
        else
          let (w, n) := octalFrom 2 v s
          .ok ⟨[Char.ofNat w], n + 1, true⟩
      | none, none => .ok ⟨[c], 1, false⟩

/-- A decoded stretch of text. -/
structure Decoded where
  chars : List Char
  flaws : List Flaw
deriving DecidableEq, Repr

/-- Decodes the text of a literal from `offset` on, where `skip` characters belong to an escape that has
been read.  In a template an escape in base eight is no escape, and line breaks are all written the same
way. -/
def decode (inTemplate : Bool) : (skip offset : Nat) → List Char → Except Flaw Decoded
  | _, _, [] => .ok ⟨[], []⟩
  | k + 1, n, _ :: s => decode inTemplate k (n + 1) s
  | 0, n, c :: s =>
    if c = '\\' then
      match escape s with
      | .error f => .error ⟨n, f⟩
      | .ok e =>
        if e.isOctal && inTemplate then .error ⟨n, .legacyOctal⟩
        else do
          let d ← decode inTemplate e.length (n + 1) s
          return ⟨e.chars ++ d.chars, if e.isOctal then ⟨n, .legacyOctal⟩ :: d.flaws else d.flaws⟩
    else if inTemplate && c = '\r' then do
      let d ← decode inTemplate (if s.head? = some '\n' then 1 else 0) (n + 1) s
      return ⟨'\n' :: d.chars, d.flaws⟩
    else do
      let d ← decode inTemplate 0 (n + 1) s
      return ⟨c :: d.chars, d.flaws⟩

/-! ### String literals -/

/-- The text of a string literal up to its `quote`, and whether there is one before the line ends. -/
def contentOf (quote : Char) : List Char → List Char × Bool
  | '\\' :: '\r' :: '\n' :: s =>
    let (t, closed) := contentOf quote s
    ('\\' :: '\r' :: '\n' :: t, closed)
  | '\\' :: c :: s =>
    let (t, closed) := contentOf quote s
    ('\\' :: c :: t, closed)
  | c :: s =>
    if c = quote then ([], true)
    else if c = '\n' || c = '\r' then ([], false)
    else
      let (t, closed) := contentOf quote s
      (c :: t, closed)
  | [] => ([], false)

/-- Reads the string literal at the front of a text. -/
def scanString : Scanner String
  | [] => .error ⟨0, .unterminatedString⟩
  | q :: s => do
    let (t, closed) := contentOf q s
    let d ← decode false 0 1 t
    return ⟨String.ofList d.chars, t.length + (if closed then 2 else 1),
      if closed then d.flaws else d.flaws ++ [⟨0, .unterminatedString⟩]⟩

/-! ### Template text -/

/-- A stretch of template text. -/
structure TemplateText where
  /-- The text as it is written, with all line breaks written the same way. -/
  raw : String
  /-- The text with its escapes read, which only a tagged template may lack. -/
  cooked : Except Flaw String

/-- The text of a template up to the backtick or the `${` that ends it, if there is one. -/
def templateContentOf? : List Char → Option (List Char)
  | [] => none
  | ['\\'] => none
  | '\\' :: c :: s => (templateContentOf? s).map fun t => '\\' :: c :: t
  | '`' :: _ => some []
  | '$' :: '\x7b' :: _ => some []
  | c :: s => (templateContentOf? s).map (c :: ·)

/-- `s` with every line break written as a line feed. -/
def withLineFeeds : List Char → List Char
  | '\r' :: '\n' :: s => '\n' :: withLineFeeds s
  | '\r' :: s => '\n' :: withLineFeeds s
  | c :: s => c :: withLineFeeds s
  | [] => []

/-- Reads template text at the front of a text. -/
def scanTemplateText : Scanner TemplateText := fun s =>
  match templateContentOf? s with
  | none => .error ⟨s.length, .unexpectedEnd⟩
  | some t =>
    let cooked := (decode true 0 0 t).map fun d => String.ofList d.chars
    .ok ⟨⟨String.ofList (withLineFeeds t), cooked⟩, t.length, []⟩

end LazyStyles.Syntax
