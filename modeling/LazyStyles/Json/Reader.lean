import LazyStyles.Json.Value
import LazyStyles.Text.Bytes
import LazyStyles.Text.Class

/-!
# Reading JSON

A reader takes a value off the front of a text and returns it with the text that is left.  A text that
is no value halts the reader, and the halt says how many bytes were still unread then: with the length
of the whole text that is the place of the fault, and it does not depend on what stands before.

`Json.value` reads one value with the white space before it; `Json.Reader.text`, `number` and `word` read
the rest of a string, a number and a word.
-/

namespace LazyStyles.Json

/-- A fault, with the number of bytes that were unread when it was found. -/
structure Halt where
  fault : Fault
  unread : Nat
deriving DecidableEq, Repr

/-- What is unread of `s` after one more byte. -/
def unreadAfterByte (s : List Char) : Nat :=
  byteSize s - 1

/-- JSON white space. -/
def isGap (c : Char) : Bool :=
  c == ' ' || c == '\n' || c == '\t' || c == '\r'

/-- `s` without the white space at its front. -/
def skipGap (s : List Char) : List Char :=
  s.dropWhile isGap

/-- A halt just after the first byte of `s`, the byte that was looked at. -/
def haltAtByte (fault : Fault) (s : List Char) : Halt :=
  ⟨fault, unreadAfterByte s⟩

namespace Reader

/-! ### Strings -/

/-- The code unit that four hexadecimal digits at the front of `s` name.  The four bytes are taken even
if they are no digits. -/
def codeUnit (s : List Char) : Except Halt Nat :=
  if byteSize s < 4 then .error ⟨.eofInString, 0⟩
  else
    let bad : Except Halt Nat := .error ⟨.invalidEscape, byteSize s - 4⟩
    match s with
    | a :: b :: c :: d :: _ =>
      match Text.hexValue? a, Text.hexValue? b, Text.hexValue? c, Text.hexValue? d with
      | some a, some b, some c, some d => .ok (((a * 16 + b) * 16 + c) * 16 + d)
      | _, _, _, _ => bad
    | _ => bad

/-- Whether `n` is the second half of a surrogate pair. -/
def isLowSurrogate (n : Nat) : Bool := 0xDC00 ≤ n && n ≤ 0xDFFF

/-- Whether `n` is the first half of a surrogate pair. -/
def isHighSurrogate (n : Nat) : Bool := 0xD800 ≤ n && n ≤ 0xDBFF

/-- The character that a `\u` escape stands for, `s` being the text after the `u`, and the number of
characters of `s` that it takes. -/
def unicodeEscape (s : List Char) : Except Halt (Char × Nat) := do
  let high ← codeUnit s
  let r := s.drop 4
  if isLowSurrogate high then throw ⟨.loneSurrogate, byteSize r⟩
  if !isHighSurrogate high then return (Char.ofNat high, 4)
  match r with
  | [] => throw ⟨.eofInString, 0⟩
  | '\\' :: [] => throw ⟨.eofInString, 0⟩
  | '\\' :: 'u' :: r =>
    let low ← codeUnit r
    if !isLowSurrogate low then throw ⟨.loneSurrogate, byteSize (r.drop 4)⟩
    return (Char.ofNat ((high - 0xD800) * 0x400 + (low - 0xDC00) + 0x10000), 10)
  | '\\' :: r => throw ⟨.endOfHexEscape, unreadAfterByte r⟩
  | r => throw ⟨.endOfHexEscape, unreadAfterByte r⟩

/-- The character that an escape stands for, `s` being the text after the backslash, and the number of
characters of `s` that it takes. -/
def escape (s : List Char) : Except Halt (Char × Nat) :=
  match s with
  | [] => .error ⟨.eofInString, 0⟩
  | c :: r =>
    match c with
    | '"' | '\\' | '/' => .ok (c, 1)
    | 'b' => .ok ('\x08', 1)
    | 'f' => .ok ('\x0c', 1)
    | 'n' => .ok ('\n', 1)
    | 'r' => .ok ('\r', 1)
    | 't' => .ok ('\t', 1)
    | 'u' => (unicodeEscape r).map fun (d, n) => (d, n + 1)
    | _ => .error ⟨.invalidEscape, unreadAfterByte s⟩

/-- Reads the rest of a string whose opening quote has been read; the first `skip` characters belong to
an escape that has been decoded. -/
def text (skip : Nat) : List Char → Except Halt (List Char × List Char)
  | [] => .error ⟨.eofInString, 0⟩
  | c :: s =>
    match skip with
    | skip + 1 => text skip s
    | 0 =>
      if c == '"' then .ok ([], s)
      else if c == '\\' then
        match escape s with
        | .ok (d, n) => (text n s).map fun (t, r) => (d :: t, r)
        | .error e => .error e
      else if c.toNat < 32 then .error ⟨.controlCharacter, byteSize s⟩
      else (text 0 s).map fun (t, r) => (c :: t, r)

/-- A string whose opening quote has been read. -/
def quoted (s : List Char) : Except Halt (String × List Char) :=
  (text 0 s).map fun (t, r) => (String.ofList t, r)

/-! ### Numbers -/

/-- The value of a decimal digit. -/
def digit? (c : Char) : Option Nat :=
  if c.isDigit then some (c.toNat - '0'.toNat) else none

/-- The digits at the front of `s` continue `acc` while it stays below `bound`: the value reached, the
number of digits taken, and the text that is left. -/
def digits (bound : Nat) (acc count : Nat) : List Char → Nat × Nat × List Char
  | [] => (acc, count, [])
  | c :: s =>
    match digit? c with
    | some d =>
      if acc * 10 + d < bound then digits bound (acc * 10 + d) (count + 1) s else (acc, count, c :: s)
    | none => (acc, count, c :: s)

/-- `s` without the digits at its front, and their number. -/
def skipDigits (s : List Char) : Nat × List Char :=
  ((s.takeWhile Char.isDigit).length, s.dropWhile Char.isDigit)

/-- The bound of the significand: what a 64 bit word does not hold. -/
def wordBound : Nat := Nat.pow 2 64

/-- The greatest power of ten of the format. -/
def greatestPower : Nat := 308

/-- `x` times the power of ten `e`, each step rounded; an overflow is `none`. -/
def scale : Nat → Decimal.Binary → Int → Option Decimal.Binary
  | 0, _, _ => none
  | fuel + 1, x, e =>
    if e.natAbs ≤ greatestPower then
      (Decimal.Binary.ofNat? (Nat.pow 10 e.natAbs)).bind fun p => if 0 ≤ e then x.mul? p else x.div? p
    else if x.significand = 0 then some x
    else if 0 ≤ e then none
    else
      ((Decimal.Binary.ofNat? (Nat.pow 10 greatestPower)).bind x.div?).bind fun y =>
        scale fuel y (e + greatestPower)

/-- The number `significand * 10 ^ e`, read up to `rest`. -/
def scaled (negative : Bool) (significand : Nat) (e : Int) (rest : List Char) :
    Except Halt (Json × List Char) :=
  match (Decimal.Binary.ofNat? significand).bind fun x => scale (e.natAbs / greatestPower + 2) x e with
  | some x => .ok (.float negative x, rest)
  | none => .error ⟨.numberOutOfRange, byteSize rest⟩

/-- The bound of a written exponent: what a signed 32 bit word does not hold. -/
def exponentBound : Nat := Nat.pow 2 31

/-- The power of ten of a number, `s` being the text after the `e`. -/
def exponent (negative : Bool) (significand : Nat) (e : Int) (s : List Char) :
    Except Halt (Json × List Char) :=
  let (up, s) :=
    match s with
    | '+' :: r => (true, r)
    | '-' :: r => (false, r)
    | r => (true, r)
  match s with
  | [] => .error ⟨.eofInValue, 0⟩
  | c :: r =>
    match digit? c with
    | none => .error ⟨.invalidNumber, unreadAfterByte (c :: r)⟩
    | some d =>
      let (n, _, rest) := digits exponentBound d 1 r
      match rest with
      | c :: after =>
        if c.isDigit then
          if significand ≠ 0 ∧ up then .error ⟨.numberOutOfRange, byteSize after⟩
          else .ok (.float negative ⟨0, Decimal.Binary.minExponent⟩, after.dropWhile Char.isDigit)
        else scaled negative significand (if up then e + n else e - n) rest
      | [] => scaled negative significand (if up then e + n else e - n) []

/-- What follows the digits of a number: an exponent or nothing. -/
def exponent? (negative : Bool) (significand : Nat) (e : Int) (s : List Char) :
    Except Halt (Json × List Char) :=
  match s with
  | 'e' :: r | 'E' :: r => exponent negative significand e r
  | r => scaled negative significand e r

/-- The fraction of a number, `s` being the text after the point. -/
def fraction (negative : Bool) (significand : Nat) (e : Int) (s : List Char) :
    Except Halt (Json × List Char) :=
  let (m, count, rest) := digits wordBound significand 0 s
  match rest with
  | c :: _ =>
    if c.isDigit then exponent? negative m (e - count) (skipDigits rest).2
    else if count = 0 then .error (haltAtByte .invalidNumber rest)
    else exponent? negative m (e - count) rest
  | [] =>
    if count = 0 then .error (haltAtByte .eofInValue rest)
    else exponent? negative m (e - count) rest

/-- What follows the integer part `m` of a number that fits into a word. -/
def afterInteger (negative : Bool) (m : Nat) (s : List Char) : Except Halt (Json × List Char) :=
  match s with
  | '.' :: r => fraction negative m 0 r
  | 'e' :: r | 'E' :: r => exponent negative m 0 r
  | r =>
    if !negative then .ok (.integer m, r)
    else if m = 0 ∨ Nat.pow 2 63 < m then
      .ok (.float true ((Decimal.Binary.ofNat? m).getD ⟨0, Decimal.Binary.minExponent⟩), r)
    else .ok (.integer (-m), r)

/-- A number whose sign has been read. -/
def number (negative : Bool) (s : List Char) : Except Halt (Json × List Char) :=
  match s with
  | [] => .error ⟨.eofInValue, 0⟩
  | '0' :: r =>
    match r with
    | c :: _ =>
      if c.isDigit then .error (haltAtByte .invalidNumber r) else afterInteger negative 0 r
    | [] => afterInteger negative 0 r
  | c :: r =>
    match digit? c with
    | none => .error ⟨.invalidNumber, unreadAfterByte s⟩
    | some d =>
      let (m, _, rest) := digits wordBound d 1 r
      match rest with
      | c :: _ =>
        if c.isDigit then
          let (more, rest) := skipDigits rest
          match rest with
          | '.' :: r => fraction negative m more r
          | _ => exponent? negative m more rest
        else afterInteger negative m rest
      | [] => afterInteger negative m rest

/-! ### Words -/

/-- The rest of a word whose first letter has been read. -/
def word : List Char → List Char → Except Halt (List Char)
  | [], s => .ok s
  | _ :: _, [] => .error ⟨.eofInValue, 0⟩
  | e :: w, c :: s => if c == e then word w s else .error ⟨.expectedIdent, unreadAfterByte (c :: s)⟩

/-! ### Arrays and objects -/

/-- Whether another element follows in an array, and the text where it starts. -/
def nextElement (first : Bool) (s : List Char) : Except Halt (Bool × List Char) :=
  let s := skipGap s
  match s with
  | [] => .error (haltAtByte .eofInArray s)
  | ']' :: _ => .ok (false, s)
  | c :: r =>
    if first then .ok (true, s)
    else if c == ',' then
      let r := skipGap r
      match r with
      | [] => .error (haltAtByte .eofInValue r)
      | ']' :: _ => .error (haltAtByte .trailingComma r)
      | _ => .ok (true, r)
    else .error (haltAtByte .expectedCommaOrBracket s)

/-- The end of an array after its last element. -/
def endArray (s : List Char) : Except Halt (List Char) :=
  let s := skipGap s
  match s with
  | [] => .error (haltAtByte .eofInArray s)
  | ']' :: r => .ok r
  | ',' :: r =>
    let r := skipGap r
    match r with
    | ']' :: _ => .error (haltAtByte .trailingComma r)
    | _ => .error (haltAtByte .trailingCharacters r)
  | _ => .error (haltAtByte .trailingCharacters s)

/-- Whether another member follows in an object, and the text after the opening quote of its key or at
the closing brace. -/
def nextMember (first : Bool) (s : List Char) : Except Halt (Bool × List Char) :=
  let s := skipGap s
  match s with
  | [] => .error (haltAtByte .eofInObject s)
  | '}' :: _ => .ok (false, s)
  | c :: r =>
    if first then
      if c == '"' then .ok (true, r) else .error (haltAtByte .keyMustBeString s)
    else if c == ',' then
      let r := skipGap r
      match r with
      | [] => .error (haltAtByte .eofInValue r)
      | '"' :: r => .ok (true, r)
      | '}' :: _ => .error (haltAtByte .trailingComma r)
      | _ => .error (haltAtByte .keyMustBeString r)
    else .error (haltAtByte .expectedCommaOrBrace s)

/-- The colon between a key and its value. -/
def colon (s : List Char) : Except Halt (List Char) :=
  let s := skipGap s
  match s with
  | [] => .error (haltAtByte .eofInObject s)
  | ':' :: r => .ok r
  | _ => .error (haltAtByte .expectedColon s)

end Reader

open Reader

mutual

/-- One value with the white space before it.  `depth` is the number of arrays and objects that may still
be opened, and `fuel` bounds the work: two steps for a character
are enough. -/
def value (fuel depth : Nat) (s : List Char) : Except Halt (Json × List Char) :=
  match fuel with
  | 0 => .error ⟨.tooDeep, byteSize s⟩
  | fuel + 1 =>
    let s := skipGap s
    match s with
    | [] => .error (haltAtByte .eofInValue s)
    | 'n' :: r => (word "ull".toList r).map (Json.null, ·)
    | 't' :: r => (word "rue".toList r).map (Json.bool true, ·)
    | 'f' :: r => (word "alse".toList r).map (Json.bool false, ·)
    | '-' :: r => number true r
    | '"' :: r => (quoted r).map fun (t, r) => (Json.string t, r)
    | '[' :: r =>
      if depth = 0 then .error (haltAtByte .tooDeep s)
      else do
        let (xs, r) ← elements fuel (depth - 1) true r
        let r ← endArray r
        return (.array xs, r)
    | '{' :: r =>
      if depth = 0 then .error (haltAtByte .tooDeep s)
      else do
        let (ms, r) ← members fuel (depth - 1) true r
        return (.object ms, r.drop 1)
    | c :: _ => if c.isDigit then number false s else .error (haltAtByte .expectedValue s)

/-- The elements of an array up to its closing bracket. -/
def elements (fuel depth : Nat) (first : Bool) (s : List Char) :
    Except Halt (List Json × List Char) :=
  match fuel with
  | 0 => .error ⟨.tooDeep, byteSize s⟩
  | fuel + 1 => do
    let (more, s) ← nextElement first s
    if more then
      let (x, s) ← value fuel depth s
      let (xs, s) ← elements fuel depth false s
      return (x :: xs, s)
    else return ([], s)

/-- The members of an object up to its closing brace. -/
def members (fuel depth : Nat) (first : Bool) (s : List Char) :
    Except Halt (List (String × Json) × List Char) :=
  match fuel with
  | 0 => .error ⟨.tooDeep, byteSize s⟩
  | fuel + 1 => do
    let (more, s) ← nextMember first s
    if more then
      let (k, s) ← quoted s
      let s ← colon s
      let (v, s) ← value fuel depth s
      let (ms, s) ← members fuel depth false s
      return ((k, v) :: ms, s)
    else return ([], s)

end

end LazyStyles.Json
