import LayeredScene.Numeric.Shortest

/-! # Numbers in JSON text

A `Numeral` is a number as JSON spells it: a sign, whole digits, fraction digits and an exponent.
Two things are done with one: it is written out, and its value is taken in one of the types that a
field can have.  A floating-point number is written as its shortest decimal, positional when it is
neither large nor small, otherwise with an exponent that always has a sign. -/

namespace LayeredScene

/-- A number as JSON spells it.  Without fraction digits there is no point. -/
structure Numeral where
  negative : Bool
  whole : Nat
  fraction : List (Fin 10)
  exponent : Option Int
deriving DecidableEq

def lastDigit (n : Nat) : Fin 10 :=
  ⟨n % 10, Nat.mod_lt n (by decide)⟩

/-- The last `width` decimal digits of a number. -/
def lastDigits : Nat → Nat → List (Fin 10)
  | 0, _ => []
  | width + 1, n => lastDigits width (n / 10) ++ [lastDigit n]

def digitChar (d : Fin 10) : Char :=
  Char.ofNat (48 + d.val)

namespace Numeral

def ofNat (n : Nat) : Numeral :=
  ⟨false, n, [], none⟩

def chars (n : Numeral) : List Char :=
  let sign := if n.negative then ['-'] else []
  let point := if n.fraction.isEmpty then [] else '.' :: n.fraction.map digitChar
  let power := match n.exponent with
    | none => []
    | some e => 'e' :: (if e < 0 then '-' else '+') :: Nat.toDigits 10 e.natAbs
  sign ++ Nat.toDigits 10 n.whole ++ point ++ power

/-! ## Writing floating-point numbers -/

/-- The exponents of the leading digit for which a number is written without an exponent. -/
structure Positional where
  least : Int
  greatest : Int

/-- Doubles are positional from `0.00001` up to below `10 ^ 16`. -/
def doublePositional : Positional := ⟨-5, 15⟩

/-- Singles are positional from `0.000001` up to below `10 ^ 13`. -/
def singlePositional : Positional := ⟨-6, 12⟩

/-- The numeral of a decimal.  Positional numerals always have a point. -/
def ofDecimal (range : Positional) (negative : Bool) (d : Decimal) : Numeral :=
  let width := (Nat.toDigits 10 d.digits).length - 1
  let leading := d.exponent + width
  if range.least ≤ leading ∧ leading ≤ range.greatest then
    if 0 ≤ d.exponent then ⟨negative, d.digits * Nat.pow 10 d.exponent.toNat, [0], none⟩
    else
      let places := (-d.exponent).toNat
      ⟨negative, d.digits / Nat.pow 10 places, lastDigits places d.digits, none⟩
  else ⟨negative, d.digits / Nat.pow 10 width, lastDigits width d.digits, some leading⟩

/-- The numeral of a finite number; infinities and not-a-number have none. -/
def ofUnpacked? (format : Float.Model.Format) (range : Positional) :
    Float.Model.UnpackedFloat → Option Numeral
  | .zero sign => some ⟨sign == .negative, 0, [0], none⟩
  | .finite sign mantissa exponent _ =>
    some (ofDecimal range (sign == .negative) (Decimal.shortest format mantissa exponent))
  | _ => none

def ofDouble? (x : Float) : Option Numeral :=
  ofUnpacked? .binary64 doublePositional x.toModel.unpack

def ofSingle? (x : Float32) : Option Numeral :=
  ofUnpacked? .binary32 singlePositional x.toModel.unpack

/-! ## Taking the value -/

def isWhole (n : Numeral) : Bool :=
  n.fraction.isEmpty && n.exponent.isNone

/-- The value as an unsigned number of 64 bits, if it is written as one. -/
def toNat? (n : Numeral) : Option Nat :=
  if !n.negative && n.isWhole && n.whole < UInt64.size then some n.whole else none

/-- The leading digits that fit into 64 bits, and how many digits follow them. -/
def leadingWord (n : Nat) : Nat × Nat :=
  if n < UInt64.size then (n, 0)
  else
    let (lead, dropped) := leadingWord (n / 10)
    (lead, dropped + 1)
termination_by n
decreasing_by
  have : 0 < UInt64.size := by decide
  omega

/-- Appends fraction digits to a significand for as long as it fits into 64 bits. -/
def absorb (significand : Nat) (exponent : Int) : List (Fin 10) → Nat × Int
  | [] => (significand, exponent)
  | d :: ds =>
    let longer := significand * 10 + d.val
    if longer < UInt64.size then absorb longer (exponent - 1) ds else (significand, exponent)

/-- The number as a significand of 64 bits and a decimal exponent; digits beyond are dropped. -/
def scientific (n : Numeral) : Nat × Int :=
  let (lead, dropped) := leadingWord n.whole
  let (significand, exponent) := absorb lead dropped n.fraction
  (significand, exponent + n.exponent.getD 0)

def tenTo (exponent : Nat) : Float :=
  Float.ofScientific 1 false exponent

/-- Divides by a power of ten, in steps that a double can hold. -/
def shrink (x : Float) (exponent : Nat) : Float :=
  if exponent ≤ 308 then x / tenTo exponent
  else if x == 0 then x
  else shrink (x / tenTo 308) (exponent - 308)
termination_by exponent
decreasing_by omega

/-- The value as a double: the significand times or divided by its power of ten, each rounded.  A
number beyond the largest double has none. -/
def toDouble? (n : Numeral) : Option Float :=
  let (significand, exponent) := n.scientific
  let start := (UInt64.ofNat significand).toFloat
  let size? :=
    if exponent < 0 then some (shrink start exponent.natAbs)
    else if 308 < exponent then (if significand = 0 then some start else none)
    else
      let product := start * tenTo exponent.toNat
      if product.isInf then none else some product
  size?.map fun size => if n.negative then -size else size

/-- The value as a single.  A whole number is rounded once, any other by way of its double. -/
def toSingle? (n : Numeral) : Option Float32 :=
  let fits := if n.negative then 0 < n.whole && n.whole ≤ UInt64.size / 2 else n.whole < UInt64.size
  if n.isWhole && fits then
    let size := (UInt64.ofNat n.whole).toFloat32
    some (if n.negative then -size else size)
  else n.toDouble?.map narrow

end Numeral

end LayeredScene
