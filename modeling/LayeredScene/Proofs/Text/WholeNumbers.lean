import LayeredScene.Text.WholeNumber
import Mathlib.Data.List.Basic

/-! # What spells a whole number -/

namespace LayeredScene.Text

/-- The text spells a whole number below the bound: digits, after a plus sign if one likes. -/
def SpellsBelow (bound : Nat) (s : String) : Prop :=
  ∃ digits, (s.toList = digits ∨ s.toList = '+' :: digits) ∧ digits ≠ [] ∧
    (∀ c ∈ digits, c.isDigit) ∧ Nat.ofDigitChars 10 digits 0 < bound

theorem foldl_digits (cs : List Char) :
    cs.foldl (fun n c => n * 10 + (c.toNat - 48)) 0 = Nat.ofDigitChars 10 cs 0 := by
  simp only [Nat.ofDigitChars_eq_foldl, Nat.mul_comm 10]
  rfl

theorem digits?_eq_some_iff {cs : List Char} {n : Nat} :
    digits? cs = some n ↔ cs ≠ [] ∧ (∀ c ∈ cs, c.isDigit) ∧ Nat.ofDigitChars 10 cs 0 = n := by
  simp [digits?, foldl_digits, Option.ite_none_right_eq_some, and_assoc]

theorem isSome_wholeNumber?_iff {bound : Nat} {s : String} :
    (wholeNumber? bound s).isSome ↔ SpellsBelow bound s := by
  simp only [wholeNumber?, Option.isSome_filter, Option.any_eq_true, decide_eq_true_eq,
    digits?_eq_some_iff]
  constructor
  · rintro ⟨n, ⟨some, digits, rfl⟩, small⟩
    refine ⟨_, ?_, some, digits, small⟩
    split
    · next plus => exact .inr (List.eq_cons_of_mem_head? plus)
    · exact .inl rfl
  · rintro ⟨cs, spelled, some, digits, small⟩
    have unsigned :
        (if s.toList.head? = Option.some '+' then s.toList.tail else s.toList) = cs := by
      rcases spelled with spelled | spelled
      · -- A digit in front is no plus sign.
        rw [spelled, if_neg]
        intro plus
        exact absurd (digits _ (List.mem_of_mem_head? plus)) (by decide)
      · rw [spelled]
        rfl
    rw [unsigned]
    exact ⟨_, ⟨some, digits, rfl⟩, small⟩

end LayeredScene.Text
