import LayeredScene.Json.Reader
import Mathlib.Data.List.Basic
import Mathlib.Tactic.IntervalCases

/-! # Hexadecimal digits

The digits of both cases, as a table, and that they are what `TextScan.hexValue?` takes for digits.
Colours are spelled with them, and so are the escapes of quoted strings.
-/

namespace LayeredScene

/-- The character is the hexadecimal digit for a number, in either case. -/
def HexDigit (c : Char) (n : Nat) : Prop :=
  "0123456789abcdef".toList[n]? = some c ∨ "0123456789ABCDEF".toList[n]? = some c

instance (c : Char) (n : Nat) : Decidable (HexDigit c n) := inferInstanceAs (Decidable (_ ∨ _))

theorem toNat_of_hexValue? {c : Char} {n : Nat} (h : TextScan.hexValue? c = some n) :
    n < 10 ∧ c.toNat = 48 + n ∨ 10 ≤ n ∧ n < 16 ∧ (c.toNat = 87 + n ∨ c.toNat = 55 + n) := by
  simp only [TextScan.hexValue?, Char.le_def, UInt32.le_iff_toNat_le] at h
  change (if 48 ≤ c.toNat ∧ c.toNat ≤ 57 then _ else
    if 97 ≤ c.toNat ∧ c.toNat ≤ 102 then _ else
    if 65 ≤ c.toNat ∧ c.toNat ≤ 70 then _ else _) = _ at h
  split_ifs at h <;> cases h <;> omega

theorem hexValue?_eq_some_iff {c : Char} {n : Nat} :
    TextScan.hexValue? c = some n ↔ HexDigit c n := by
  constructor
  · intro h
    obtain ⟨small, code⟩ | ⟨large, small, code⟩ := toNat_of_hexValue? h
    · rw [← Char.ofNat_toNat c, code]
      interval_cases n <;> decide
    · rw [← Char.ofNat_toNat c]
      rcases code with code | code <;> rw [code] <;> interval_cases n <;> decide
  · intro digit
    have small : n < 16 := by
      by_contra large
      simp [HexDigit, large] at digit
    interval_cases n <;> simp [HexDigit] at digit <;> obtain rfl | rfl := digit <;> rfl

theorem utf8Size_of_hexDigit {c : Char} {n : Nat} (h : HexDigit c n) : c.utf8Size = 1 := by
  have code := toNat_of_hexValue? (hexValue?_eq_some_iff.mpr h)
  rw [Char.utf8Size_eq_one_iff, UInt32.le_iff_toNat_le]
  change c.toNat ≤ 127
  omega

end LayeredScene
