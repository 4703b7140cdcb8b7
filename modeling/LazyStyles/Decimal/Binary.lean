/-!
# Binary floating point numbers

The non-negative numbers of the binary format with 53 bits of precision, held as `m · 2 ^ q`, and the
two steps between them and decimal text: rounding a ratio to the nearest such number
(`Binary.ofRatio?`, ties to the even significand), and the shortest decimal that reads back
(`Binary.shortest`).  Everything is computed in exact arithmetic on natural numbers.
-/

namespace LazyStyles.Decimal

/-- The number `significand * 2 ^ exponent`. -/
structure Binary where
  significand : Nat
  exponent : Int
deriving DecidableEq, Repr, Inhabited

namespace Binary

/-- The least exponent that the format has. -/
def minExponent : Int := -1074

/-- The number as a ratio of two natural numbers. -/
def toRatio (x : Binary) : Nat × Nat :=
  (x.significand * Nat.pow 2 x.exponent.toNat, Nat.pow 2 (-x.exponent).toNat)

/-- `num / den` rounded to the nearest natural number, ties to the even one. -/
def roundHalfEven (num den : Nat) : Nat :=
  let q := num / den
  let r := 2 * (num % den)
  if r < den then q else if den < r then q + 1 else if q % 2 = 0 then q else q + 1

/-- `num / (den * 2 ^ e)` as a ratio. -/
def scaleDown (num den : Nat) (e : Int) : Nat × Nat :=
  (num * Nat.pow 2 (-e).toNat, den * Nat.pow 2 e.toNat)

/-- The number nearest to `num / den`, or `none` if that is beyond the largest one. -/
def ofRatio? (num den : Nat) : Option Binary :=
  if num = 0 then some ⟨0, minExponent⟩
  else
    let guess := max ((Nat.log2 num : Int) - (Nat.log2 den : Int) - 53) minExponent
    let (n, d) := scaleDown num den guess
    let e := if Nat.pow 2 53 ≤ n / d then guess + 1 else guess
    let (n, d) := scaleDown num den e
    let m := roundHalfEven n d
    if Nat.pow 2 1024 ≤ m * Nat.pow 2 e.toNat then none else some ⟨m, e⟩

/-- The number nearest to `n`. -/
def ofNat? (n : Nat) : Option Binary := ofRatio? n 1

/-- The number nearest to the product of `x` and `y`. -/
def mul? (x y : Binary) : Option Binary :=
  let (a, b) := x.toRatio
  let (c, d) := y.toRatio
  ofRatio? (a * c) (b * d)

/-- The number nearest to the quotient of `x` by `y`; the quotient by zero is `none`. -/
def div? (x y : Binary) : Option Binary :=
  let (a, b) := x.toRatio
  let (c, d) := y.toRatio
  if c = 0 then none else ofRatio? (a * d) (b * c)

/-- The greatest `e` with `10 ^ e ≤ num / den`, for a positive ratio of the format's range. -/
def decimalExponent (num den : Nat) : Int :=
  if den ≤ num then ((Nat.toDigits 10 (num / den)).length : Int) - 1
  else
    match (List.range 400).find? fun j => den ≤ num * Nat.pow 10 j with
    | some j => -(j : Int)
    | none => -400

/-- The two neighbours of `x` on the decimal grid of `n` digits that round to `x`, the nearer one if
both do; as a digit count times a power of ten. -/
def onGrid? (x : Binary) (n : Nat) : Option (Nat × Int) :=
  let (num, den) := (⟨4 * x.significand, x.exponent - 2⟩ : Binary).toRatio
  let unit := num / (4 * x.significand)
  let low := if x.significand = Nat.pow 2 52 ∧ minExponent < x.exponent then num - unit else num - 2 * unit
  let high := num + 2 * unit
  let closed := x.significand % 2 = 0
  let k := decimalExponent num den - (n : Int) + 1
  -- `c * 10 ^ k` against `b / den`
  let up := Nat.pow 10 k.toNat
  let down := Nat.pow 10 (-k).toNat
  let below := num * down / (den * up)
  let inside (c : Nat) : Bool :=
    let v := c * up * den
    if closed then low * down ≤ v && v ≤ high * down else low * down < v && v < high * down
  let distance (c : Nat) : Nat :=
    (c * up * den - num * down) + (num * down - c * up * den)
  match inside below, inside (below + 1) with
  | true, true => some (if distance below ≤ distance (below + 1) then below else below + 1, k)
  | true, false => some (below, k)
  | false, true => some (below + 1, k)
  | false, false => none

/-- The decimal with the fewest digits that rounds to `x`, of those the nearest: digits times a power
of ten. -/
def shortest (x : Binary) : Nat × Int :=
  if x.significand = 0 then (0, 0)
  else
    match (List.range 17).findSome? fun n => onGrid? x (n + 1) with
    | some (c, k) => trim 20 c k
    | none => (x.significand, x.exponent)
where
  /-- Moves trailing zeros of the digits into the power. -/
  trim : Nat → Nat → Int → Nat × Int
    | 0, c, k => (c, k)
    | fuel + 1, c, k => if c % 10 = 0 ∧ c ≠ 0 then trim fuel (c / 10) (k + 1) else (c, k)

/-- The number in text: positional from `10 ^ -5` up to below `10 ^ 16`, always with a point there, else
with a power of ten. -/
def render (x : Binary) : String :=
  let (c, k) := x.shortest
  if c = 0 then "0.0"
  else
    let ds := Nat.toDigits 10 c
    let point := (ds.length : Int) + k
    if 0 ≤ k ∧ point ≤ 16 then
      String.ofList (ds ++ List.replicate k.toNat '0' ++ ['.', '0'])
    else if 0 < point ∧ point ≤ 16 then
      String.ofList (ds.take point.toNat ++ '.' :: ds.drop point.toNat)
    else if -5 < point ∧ point ≤ 0 then
      String.ofList ('0' :: '.' :: List.replicate (-point).toNat '0' ++ ds)
    else
      let mantissa := if ds.length = 1 then ds else ds.take 1 ++ '.' :: ds.drop 1
      String.ofList mantissa ++ "e" ++ toString (point - 1)

end Binary

end LazyStyles.Decimal
