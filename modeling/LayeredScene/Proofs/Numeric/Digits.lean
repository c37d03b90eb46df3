import Mathlib
import LayeredScene.Json.Numeral

/-! # How long a number is written

Every finite double is written with at most `charLimit` characters.  The bound is coarse: it comes
from the range of the exponents alone, as the search for the shortest decimal starts near the
leading digit and goes through no more than 17 grids.
-/

namespace LayeredScene

open Float.Model.Format (binary64)
open Float.Model.UnpackedFloat

/-! ## The decimal that is found -/

theorem stripZeros_bounds (digits : Nat) (exponent : Int) (fuel : Nat) :
    (Decimal.stripZeros digits exponent fuel).digits ≤ digits ∧
      exponent ≤ (Decimal.stripZeros digits exponent fuel).exponent ∧
      (Decimal.stripZeros digits exponent fuel).exponent ≤ exponent + fuel := by
  induction fuel generalizing digits exponent with
  | zero => simp [Decimal.stripZeros]
  | succ fuel ih =>
    rw [Decimal.stripZeros]
    split
    · have := ih (digits / 10) (exponent + 1)
      omega
    · simp only [Nat.le_refl, true_and]
      omega

namespace Interval

variable (i : Interval)

/-- A point that is chosen on a grid is next to the number. -/
theorem onGrid_le {exponent : Int} {digits : Nat} (h : i.onGrid exponent = some digits) :
    digits ≤ i.value * i.numer * 10 ^ (-exponent).toNat + 1 := by
  have below := Nat.div_le_self (i.value * (i.numer * Nat.pow 10 (-exponent).toNat))
    (i.denom * Nat.pow 10 exponent.toNat)
  -- The point is the quotient or the one above it.
  rw [Nat.mul_assoc]
  simp only [onGrid] at h
  split at h
  · split at h <;> cases h
    · exact Nat.le_succ_of_le below
    · exact Nat.succ_le_succ below
  · cases h
    exact Nat.le_succ_of_le below
  · cases h
    exact Nat.succ_le_succ below
  · cases h

theorem search_bounds (exponent : Int) (fuel : Nat) :
    exponent - fuel ≤ (i.search exponent fuel).exponent ∧
      (i.search exponent fuel).exponent ≤ exponent + 2 ∧
      (i.search exponent fuel).digits ≤ i.value * i.numer * 10 ^ (fuel - exponent).toNat + 1 := by
  induction fuel generalizing exponent with
  | zero =>
    refine ⟨?_, ?_, ?_⟩
    · simp [search]
    · simp only [search]
      omega
    · have digits := Nat.div_le_self (i.value * i.numer * Nat.pow 10 (-exponent).toNat)
        (i.denom * Nat.pow 10 exponent.toNat)
      rw [show ((0 : Nat) : Int) - exponent = -exponent by omega]
      exact Nat.le_succ_of_le digits
  | succ fuel ih =>
    rw [search]
    split
    · next digits found =>
      -- A point of this grid, of which only zeros are taken away.
      obtain ⟨shorter, from_, to_⟩ := stripZeros_bounds digits exponent 2
      have near := i.onGrid_le found
      have wider : 10 ^ (-exponent).toNat ≤ 10 ^ (((fuel + 1 : Nat) : Int) - exponent).toNat :=
        Nat.pow_le_pow_right (by decide) (by omega)
      have scaled := Nat.mul_le_mul_left (i.value * i.numer) wider
      refine ⟨?_, ?_, ?_⟩ <;> omega
    · -- The next grid is ten times finer, with one step less to go.
      have rest := ih (exponent - 1)
      rw [show (fuel : Int) - (exponent - 1) = ((fuel + 1 : Nat) : Int) - exponent by omega] at rest
      refine ⟨?_, ?_, rest.2.2⟩ <;> omega

end Interval

theorem leadingExponent_bounds (i : Interval) {mantissa : Nat} (small : mantissa < 2 ^ 53)
    {exponent : Int} (low : -1100 ≤ exponent) (high : exponent ≤ 1000) :
    -333 ≤ leadingExponent i mantissa exponent ∧ leadingExponent i mantissa exponent ≤ 318 := by
  have log : mantissa.log2 ≤ 53 := by
    by_cases zero : mantissa = 0
    · simp [zero]
    · exact Nat.le_of_lt ((Nat.log2_lt zero).mpr small)
  have guess : -332 ≤ (mantissa.log2 + exponent) * 30103 / 100000 ∧
      (mantissa.log2 + exponent) * 30103 / 100000 ≤ 317 := by
    omega
  -- The exponent is that of the estimate or next to it.
  simp only [leadingExponent, List.find?_cons, List.find?_nil]
  split
  · simp only [Option.getD_some]
    omega
  · split
    · simp only [Option.getD_some]
      omega
    · simp only [Option.getD_none]
      omega

/-- A product of three numbers has at most as many digits as they have together. -/
theorem length_toDigits_of_le_mul {n u v w a b c : Nat} (h : n ≤ u * v * w + 1) (hu : u ≤ 10 ^ a)
    (hv : v ≤ 10 ^ b) (hw : w ≤ 10 ^ c) : (Nat.toDigits 10 n).length ≤ a + b + c + 1 := by
  rw [Nat.length_toDigits_le_iff (by decide) (Nat.succ_pos _), Nat.pow_succ]
  have product := Nat.mul_le_mul (Nat.mul_le_mul hu hv) hw
  rw [← Nat.pow_add, ← Nat.pow_add] at product
  have pos : 0 < 10 ^ (a + b + c) := Nat.pow_pos (by decide)
  omega

theorem shortest_bounds {mantissa : Nat} (small : mantissa < 2 ^ 53) {exponent : Int}
    (low : -1100 ≤ exponent) (high : exponent ≤ 1000) :
    (Nat.toDigits 10 (Decimal.shortest .binary64 mantissa exponent).digits).length ≤ 1366 ∧
      -350 ≤ (Decimal.shortest .binary64 mantissa exponent).exponent ∧
      (Decimal.shortest .binary64 mantissa exponent).exponent ≤ 320 := by
  -- Only two bounds of the interval matter, and `omega` should not look into it.
  obtain ⟨i, around⟩ : ∃ i, i = Interval.around .binary64 mantissa exponent := ⟨_, rfl⟩
  obtain ⟨start, stop⟩ := leadingExponent_bounds i small low high
  obtain ⟨least, greatest, digits⟩ := i.search_bounds (leadingExponent i mantissa exponent) 17
  have value : i.value ≤ 10 ^ 17 := by
    rw [around]
    simp only [Interval.around]
    omega
  have numer : i.numer ≤ 10 ^ (exponent - 2).toNat := by
    rw [around]
    exact Nat.pow_le_pow_left (by decide) _
  have length := length_toDigits_of_le_mul digits value numer (Nat.le_refl _)
  rw [Decimal.shortest, ← around]
  exact ⟨by omega, by omega, by omega⟩

theorem unpack_bounds {x : Float} {sign : Sign} {mantissa : Nat} {exponent : Int}
    {pos : 0 < mantissa} (h : x.toModel.unpack = .finite sign mantissa exponent pos) :
    mantissa < 2 ^ 53 ∧ -1100 ≤ exponent ∧ exponent ≤ 1000 := by
  rw [Float.Model.unpack, unpack] at h
  have stored : (@unpackExponent binary64 x.toModel.toBits.toBitVec).toNat < 2 ^ 11 :=
    BitVec.isLt _
  have fraction : (@unpackMantissa binary64 x.toModel.toBits.toBitVec).toNat < 2 ^ 52 :=
    BitVec.isLt _
  have bias : binary64.exponentBias = 1023 := by decide
  have places : binary64.mantissaBitsWithoutImplicit = 52 := rfl
  -- Infinities and not-a-number are not finite; then zero, subnormal and normal numbers.
  split at h
  · split at h <;> cases h
  · split at h
    · split at h
      · cases h
      · cases h
        omega
    · cases h
      have whole : (1#1 ++ @unpackMantissa binary64 x.toModel.toBits.toBitVec).toNat <
          2 ^ 53 := BitVec.isLt _
      omega

/-! ## The numeral that is written -/

theorem lt_pow_length_toDigits (n : Nat) : n < 10 ^ (Nat.toDigits 10 n).length :=
  (Nat.length_toDigits_le_iff (by decide) Nat.length_toDigits_pos).mp (Nat.le_refl _)

theorem length_toDigits_mono {m n : Nat} (h : m ≤ n) :
    (Nat.toDigits 10 m).length ≤ (Nat.toDigits 10 n).length :=
  (Nat.length_toDigits_le_iff (by decide) Nat.length_toDigits_pos).mpr
    (Nat.lt_of_le_of_lt h (lt_pow_length_toDigits n))

theorem length_lastDigits (width n : Nat) : (lastDigits width n).length = width := by
  induction width generalizing n with
  | zero => rfl
  | succ width ih => rw [lastDigits, List.length_append, ih, List.length_singleton]

namespace Numeral

theorem length_chars_le (n : Numeral) : n.chars.length ≤
    (Nat.toDigits 10 n.whole).length + n.fraction.length +
      (match n.exponent with | none => 0 | some e => (Nat.toDigits 10 e.natAbs).length) + 4 := by
  obtain ⟨negative, whole, fraction, exponent⟩ := n
  cases negative <;> cases fraction <;> cases exponent <;> simp [chars] <;> omega

/-- How many characters a finite double may take. -/
def charLimit : Nat := 3200

theorem length_ofDecimal (negative : Bool) {d : Decimal}
    (digits : (Nat.toDigits 10 d.digits).length ≤ 1366) (low : -350 ≤ d.exponent)
    (high : d.exponent ≤ 320) :
    (ofDecimal doublePositional negative d).chars.length ≤ charLimit := by
  obtain ⟨width, hwidth⟩ : ∃ width, width = (Nat.toDigits 10 d.digits).length - 1 := ⟨_, rfl⟩
  have quotient : ∀ n, (Nat.toDigits 10 (d.digits / n)).length ≤ 1366 := fun n =>
    Nat.le_trans (length_toDigits_mono (Nat.div_le_self _ _)) digits
  rw [ofDecimal, ← hwidth]
  -- Whole numbers, those with a point, and those with an exponent.
  split
  · split
    · have whole : (Nat.toDigits 10 (d.digits * 10 ^ d.exponent.toNat)).length ≤
          (Nat.toDigits 10 d.digits).length + d.exponent.toNat + 0 + 1 :=
        length_toDigits_of_le_mul (w := 1) (c := 0) (by rw [Nat.mul_one]; exact Nat.le_succ _)
          (Nat.le_of_lt (lt_pow_length_toDigits d.digits)) (Nat.le_refl _) (Nat.le_refl _)
      refine Nat.le_trans (length_chars_le _) ?_
      simp only [List.length_singleton, charLimit]
      change (Nat.toDigits 10 (d.digits * 10 ^ d.exponent.toNat)).length + 1 + 0 + 4 ≤ 3200
      omega
    · refine Nat.le_trans (length_chars_le _) ?_
      have whole := quotient (Nat.pow 10 (-d.exponent).toNat)
      simp only [length_lastDigits, charLimit]
      omega
  · refine Nat.le_trans (length_chars_le _) ?_
    have whole := quotient (Nat.pow 10 width)
    have power : (Nat.toDigits 10 (d.exponent + width).natAbs).length ≤ 4 :=
      (Nat.length_toDigits_le_iff (by decide) (by decide)).mpr (by omega)
    simp only [length_lastDigits, charLimit]
    omega

theorem length_ofDouble? {x : Float} {n : Numeral} (h : ofDouble? x = some n) :
    n.chars.length ≤ charLimit := by
  rw [ofDouble?] at h
  cases parts : x.toModel.unpack with
  | zero sign =>
    rw [parts, ofUnpacked?] at h
    cases h
    cases sign <;> decide
  | finite sign mantissa exponent pos =>
    obtain ⟨small, low, high⟩ := unpack_bounds parts
    obtain ⟨digits, least, greatest⟩ := shortest_bounds small low high
    rw [parts, ofUnpacked?] at h
    cases h
    exact length_ofDecimal _ digits least greatest
  | infinity | notANumber => simp [parts, ofUnpacked?] at h

end Numeral

end LayeredScene
