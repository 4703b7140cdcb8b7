import LazyStyles.Syntax.Word
import LazyStyles.Decimal.Binary

/-!
# Numeric literals

Numbers and big integers.  The value of a number is the binary floating point number nearest to what is
written, or `none` if that is beyond the largest one; the value of a big integer is exact.
-/

namespace LazyStyles.Syntax

/-- The value of a numeric literal. -/
inductive Numeral where
  | number (value : Option Decimal.Binary)
  | bigInt (value : Nat)
deriving DecidableEq, Repr

namespace Numeral

/-- The value `digits * 10 ^ scale`. -/
def ofDecimal (digits : List Char) (scale : Int) : Numeral :=
  let n := numberIn 10 digits
  let magnitude := (Nat.toDigits 10 n).length + scale
  if n = 0 || magnitude < -400 then .number (Decimal.Binary.ofRatio? 0 1)
  else if 400 < magnitude then .number none
  else .number (Decimal.Binary.ofRatio? (n * Nat.pow 10 scale.toNat) (Nat.pow 10 (-scale).toNat))

/-- The value written out without an exponent. -/
def text : Numeral → String
  | .bigInt n => toString n
  | .number none => "inf"
  | .number (some x) =>
    let (c, k) := x.shortest
    let ds := Nat.toDigits 10 c
    if 0 ≤ k then String.ofList (if c = 0 then ['0'] else ds ++ List.replicate k.toNat '0')
    else
      let fraction := (-k).toNat
      let ds := List.replicate (fraction + 1 - ds.length) '0' ++ ds
      String.ofList (ds.take (ds.length - fraction) ++ '.' :: ds.drop (ds.length - fraction))

end Numeral

/-! ### Digits -/

/-- A run of digits and separators at the front of a text. -/
structure DigitRun where
  digits : List Char
  /-- The number of characters, with the separators. -/
  length : Nat
  /-- Whether every separator stands between two digits. -/
  isWellSeparated : Bool
deriving DecidableEq, Repr

/-- Whether `c` is a digit of the base. -/
def isDigitIn (base : Nat) (c : Char) : Bool :=
  (Text.hexValue? c).any (· < base)

/-- Whether every separator of `cs` stands between two digits; `afterDigit` tells what comes before. -/
def wellSeparated (base : Nat) : (afterDigit : Bool) → List Char → Bool
  | _, [] => true
  | after, '_' :: cs => after && cs.head?.any (isDigitIn base) && wellSeparated base false cs
  | _, _ :: cs => wellSeparated base true cs

/-- The run of digits of the base at the front of `s`. -/
def digitRun (base : Nat) (s : List Char) : DigitRun :=
  let run := s.takeWhile fun c => isDigitIn base c || c == '_'
  ⟨run.filter (· != '_'), run.length, wellSeparated base false run⟩

/-- The flaw of a run at `offset`, if it has one. -/
def DigitRun.flaws (r : DigitRun) (offset : Nat) : List Flaw :=
  if r.isWellSeparated then [] else [⟨offset, .separatorBetweenDigits⟩]

/-! ### Scanning -/

/-- A reading that no name follows immediately. -/
def endedBefore (s : List Char) (r : Reading Numeral) : Except Flaw (Reading Numeral) :=
  match (s.drop r.length).head? with
  | some c => if Text.opensIdentifier c then .error ⟨r.length, .identifierAfterNumber⟩ else .ok r
  | none => .ok r

/-- The base that a letter after a zero stands for, and the name of its digits. -/
def baseOf? (c : Char) : Option (Nat × String) :=
  if c = 'x' || c = 'X' then some (16, "a hexadecimal")
  else if c = 'o' || c = 'O' then some (8, "an octal")
  else if c = 'b' || c = 'B' then some (2, "a binary")
  else none

/-- Reads the number `s`, which is written in another base. -/
def scanInBase (base : Nat) (name : String) (s : List Char) : Except Flaw (Reading Numeral) :=
  let run := digitRun base (s.drop 2)
  if run.digits.isEmpty then .error ⟨2, .expectedDigit name⟩
  else
    let n := numberIn base run.digits
    let flaws := run.flaws 2
    if (s.drop (2 + run.length)).head? = some 'n' then .ok ⟨.bigInt n, 3 + run.length, flaws⟩
    else endedBefore s ⟨.number (Decimal.Binary.ofNat? n), 2 + run.length, flaws⟩

/-- The fraction at the front of a text, if there is one, and how many characters it takes with its point. -/
def fractionOf : List Char → DigitRun × Nat
  | '.' :: s =>
    let run := digitRun 10 s
    (run, 1 + run.length)
  | _ => (⟨[], 0, true⟩, 0)

/-- Reads the exponent of the number `s` at `offset`, if there is one: its value, where it ends and its
flaws. -/
def scanExponent (offset : Nat) (s : List Char) : Except Flaw (Int × Nat × List Flaw) :=
  match s.drop offset with
  | c :: t =>
    if c = 'e' || c = 'E' then
      match t with
      | [] => .error ⟨offset + 1, .expectedExponent⟩
      | sign :: u =>
        let signed := sign = '+' || sign = '-'
        let start := if signed then offset + 2 else offset + 1
        let run := digitRun 10 (if signed then u else t)
        if run.digits.isEmpty then .error ⟨start, .expectedDigit "a decimal"⟩
        else
          let n := numberIn 10 run.digits
          .ok (if sign = '-' then -n else n, start + run.length, run.flaws start)
    else .ok (0, offset, [])
  | [] => .ok (0, offset, [])

/-- Reads the decimal number `s`. -/
def scanDecimal (s : List Char) : Except Flaw (Reading Numeral) := do
  let whole := digitRun 10 s
  let isLegacy := whole.digits.head? = some '0' && 1 < whole.digits.length
  if isLegacy && whole.digits.all (isDigitIn 8) then
    let n := numberIn 8 whole.digits
    endedBefore s ⟨.number (Decimal.Binary.ofNat? n), whole.length, whole.flaws 0 ++ [⟨0, .legacyOctal⟩]⟩
  else
    let flaws := whole.flaws 0 ++ if isLegacy then [⟨0, .legacyDecimal⟩] else []
    let after := s.drop whole.length
    if after.head? = some 'n' && !isLegacy && !whole.digits.isEmpty then
      return ⟨.bigInt (numberIn 10 whole.digits), whole.length + 1, flaws⟩
    else
      let (fraction, length) := fractionOf after
      let (exponent, stop, exponentFlaws) ← scanExponent (whole.length + length) s
      let value := Numeral.ofDecimal (whole.digits ++ fraction.digits)
        (exponent - fraction.digits.length)
      endedBefore s ⟨value, stop, flaws ++ fraction.flaws (whole.length + 1) ++ exponentFlaws⟩

/-- Reads the numeric literal at the front of a text. -/
def scanNumeral : Scanner Numeral
  | '0' :: c :: s =>
    match baseOf? c with
    | some (base, name) => scanInBase base name ('0' :: c :: s)
    | none => scanDecimal ('0' :: c :: s)
  | s => scanDecimal s

end LazyStyles.Syntax
