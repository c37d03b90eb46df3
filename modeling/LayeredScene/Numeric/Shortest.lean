import LayeredScene.Numeric.Width

/-! # The shortest decimal of a floating-point number

The decimals that read back to a given finite number fill an interval around it.  `shortest` finds
one with as few digits as possible in that interval: it walks through the decimal grids from coarse
to fine and stops at the first one with a point inside.  If both neighbours of the number on that
grid are inside, the nearer one wins, and a tie goes to the even digit. -/

namespace LayeredScene

open Float.Model (Format UnpackedFloat)

/-- The positive number `digits · 10 ^ exponent`. -/
structure Decimal where
  digits : Nat
  exponent : Int

/-- The positive number `value · numer / denom` with the ends of the interval around it, in quarters
of the distance to the next number. -/
structure Interval where
  low : Nat
  value : Nat
  high : Nat
  /-- Do the ends themselves read back to the number? -/
  closed : Bool
  numer : Nat
  denom : Nat

/-- The interval of the reals that round to `mantissa · 2 ^ exponent`.  Below a power of two the
next number is only half as far away. -/
def Interval.around (format : Format) (mantissa : Nat) (exponent : Int) : Interval :=
  let narrowBelow := mantissa = Nat.pow 2 (format.mantissaBits - 1) ∧ format.minExponent < exponent
  { low := 4 * mantissa - (if narrowBelow then 1 else 2)
    value := 4 * mantissa
    high := 4 * mantissa + 2
    closed := mantissa % 2 == 0
    numer := Nat.pow 2 (exponent - 2).toNat
    denom := Nat.pow 2 (2 - exponent).toNat }

/-- Is `digits · grid` in the interval, for a grid of `step / scale`? -/
def Interval.holds (i : Interval) (scale step digits : Nat) : Bool :=
  let point := digits * step
  let low := i.low * scale
  let high := i.high * scale
  if i.closed then low ≤ point && point ≤ high else low < point && point < high

/-- The best point of the grid of multiples of `10 ^ exponent`, if one is in the interval. -/
def Interval.onGrid (i : Interval) (exponent : Int) : Option Nat :=
  let scale := i.numer * Nat.pow 10 (-exponent).toNat
  let step := i.denom * Nat.pow 10 exponent.toNat
  let exact := i.value * scale
  let below := exact / step
  let above := below + 1
  match i.holds scale step below, i.holds scale step above with
  | true, true =>
    let down := exact - below * step
    let up := above * step - exact
    some (if down < up ∨ (down = up ∧ below % 2 = 0) then below else above)
  | true, false => some below
  | false, true => some above
  | false, false => none

def Interval.reaches (i : Interval) (exponent : Int) : Bool :=
  i.denom * Nat.pow 10 exponent.toNat ≤ i.value * i.numer * Nat.pow 10 (-exponent).toNat

/-- The exponent of the leading decimal digit of `mantissa · 2 ^ exponent`.  A power of two has
`0.30103` times as many decimal digits as bits, up to one, so three candidates are enough. -/
def leadingExponent (i : Interval) (mantissa : Nat) (exponent : Int) : Int :=
  let guess := (mantissa.log2 + exponent) * 30103 / 100000
  ([guess + 1, guess].find? i.reaches).getD (guess - 1)

/-- A decimal whose last digit is not zero. -/
def Decimal.stripZeros (digits : Nat) (exponent : Int) : Nat → Decimal
  | 0 => ⟨digits, exponent⟩
  | fuel + 1 =>
    if digits % 10 = 0 then stripZeros (digits / 10) (exponent + 1) fuel else ⟨digits, exponent⟩

/-- The first grid, from that of `10 ^ exponent` to finer ones, with a point in the interval. -/
def Interval.search (i : Interval) (exponent : Int) : Nat → Decimal
  | 0 =>
    ⟨i.value * i.numer * Nat.pow 10 (-exponent).toNat / (i.denom * Nat.pow 10 exponent.toNat),
      exponent⟩
  | fuel + 1 =>
    match i.onGrid exponent with
    | some digits => Decimal.stripZeros digits exponent 2
    | none => i.search (exponent - 1) fuel

/-- The shortest decimal that reads back to `mantissa · 2 ^ exponent`; 17 digits are always
enough. -/
def Decimal.shortest (format : Format) (mantissa : Nat) (exponent : Int) : Decimal :=
  let i := Interval.around format mantissa exponent
  i.search (leadingExponent i mantissa exponent) 17

end LayeredScene
