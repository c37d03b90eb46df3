import Mathlib
import LayeredScene.Text.WholeNumber

/-! # What stands before and behind a separator

A text that is put together with separators can be taken apart at the first or at the last of them
if one side is known to be without any.  Numbers are such sides, as there is nothing in them but
digits and a sign.
-/

namespace LayeredScene

/-- What stands before the first of some separators is determined. -/
theorem append_cons_inj {α : Type} {sep : α} {xs ys xs' ys' : List α} (hx : sep ∉ xs)
    (hy : sep ∉ ys) (h : xs ++ sep :: xs' = ys ++ sep :: ys') : xs = ys ∧ xs' = ys' := by
  induction xs generalizing ys with
  | nil =>
    -- A list that goes on where the other ends would go on with the separator.
    cases ys with
    | nil => exact ⟨rfl, List.tail_eq_of_cons_eq h⟩
    | cons y ys => exact absurd (List.head_eq_of_cons_eq h ▸ List.mem_cons_self) hy
  | cons x xs ih =>
    cases ys with
    | nil => exact absurd (List.head_eq_of_cons_eq h ▸ List.mem_cons_self) hx
    | cons y ys =>
      simp only [List.cons_append, List.cons.injEq, List.mem_cons, not_or] at h hx hy
      obtain ⟨same, back⟩ := ih hx.2 hy.2 h.2
      exact ⟨by rw [h.1, same], back⟩

/-- What stands behind the last of some separators is determined. -/
theorem append_cons_inj_last {α : Type} {sep : α} {xs ys xs' ys' : List α} (hx : sep ∉ xs')
    (hy : sep ∉ ys') (h : xs ++ sep :: xs' = ys ++ sep :: ys') : xs = ys ∧ xs' = ys' := by
  have mirrored : xs'.reverse ++ sep :: xs.reverse = ys'.reverse ++ sep :: ys.reverse := by
    simpa using congrArg List.reverse h
  obtain ⟨back, front⟩ := append_cons_inj (by simpa using hx) (by simpa using hy) mirrored
  exact ⟨List.reverse_inj.mp front, List.reverse_inj.mp back⟩

/-! ## Numbers -/

theorem isDigit_of_mem_toString {n : Nat} {c : Char} (h : c ∈ (toString n).toList) : c.isDigit :=
  Nat.isDigit_of_mem_toDigits (by decide) (by decide : 10 ≤ 10) (by simpa using h)

theorem notMem_toString_of_isDigit {c : Char} (other : c.isDigit = false) (n : Nat) :
    c ∉ (toString n).toList := by
  intro digit
  simp [isDigit_of_mem_toString digit] at other

/-- The digits that a number is written with spell it. -/
theorem digits?_toString (n : Nat) : Text.digits? (toString n).toList = some n := by
  have digits : (toString n).toList.all Char.isDigit :=
    List.all_eq_true.mpr fun c => isDigit_of_mem_toString
  have some : (toString n).toList.isEmpty = false := by simp
  have spelled : Nat.ofDigitChars 10 (toString n).toList 0 = n := by simp
  rw [Nat.ofDigitChars_eq_foldl] at spelled
  rw [Text.digits?, digits, some, Bool.not_false, Bool.and_self, if_pos rfl]
  simp only [Nat.mul_comm] at spelled
  exact congrArg Option.some spelled

/-- A number below the bound is read from what it is written as. -/
theorem wholeNumber?_toString {n bound : Nat} (small : n < bound) :
    Text.wholeNumber? bound (toString n) = some n := by
  have unsigned : (toString n).toList.head? ≠ some '+' := fun plus =>
    absurd (isDigit_of_mem_toString (List.mem_of_mem_head? plus)) (by decide)
  simp only [Text.wholeNumber?, if_neg unsigned, digits?_toString, Option.filter_some,
    decide_eq_true small, if_true]

theorem toList_toString_of_neg (n : Nat) :
    (toString (Int.negSucc n)).toList = '-' :: (toString (n + 1)).toList :=
  String.toList_append

/-- A whole number is written with digits and a sign. -/
theorem isDigit_or_eq_minus {n : Int} {c : Char} (h : c ∈ (toString n).toList) :
    c.isDigit ∨ c = '-' := by
  cases n with
  | ofNat n => exact .inl (isDigit_of_mem_toString h)
  | negSucc n =>
    rw [toList_toString_of_neg] at h
    cases h with
    | head => exact .inr rfl
    | tail _ h => exact .inl (isDigit_of_mem_toString h)

theorem notMem_toString {c : Char} (other : c.isDigit = false ∧ c ≠ '-') (n : Int) :
    c ∉ (toString n).toList := by
  intro h
  cases isDigit_or_eq_minus h with
  | inl digit => simp [other.1] at digit
  | inr minus => exact other.2 minus

/-- A number ends before a mark that is neither a digit nor a sign. -/
theorem number_append_inj {mark : Char} (other : mark.isDigit = false ∧ mark ≠ '-') {m n : Int}
    {rest rest' : List Char} (h : (toString m).toList ++ mark :: rest =
      (toString n).toList ++ mark :: rest') : m = n ∧ rest = rest' := by
  obtain ⟨number, behind⟩ := append_cons_inj (notMem_toString other m) (notMem_toString other n) h
  exact ⟨Int.repr_injective (String.toList_inj.mp number), behind⟩

end LayeredScene
