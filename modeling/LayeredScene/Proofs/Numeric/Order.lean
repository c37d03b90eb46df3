import Mathlib
import LayeredScene.Mesh.Basic
import LayeredScene.Glb.OfScene

/-! # The order of singles

Numbers are compared by sign, exponent and mantissa.  `rankOf` puts the three into a linear order,
and `compare_eq` says that comparing two numbers that are not a not-a-number is comparing their
ranks; only the two zeros share a rank.  The laws of the order come from there.  No finite number is
beyond `greatestSingle` or its negative, so that a search for the least or the greatest of finite
numbers may start from them.
-/

namespace LayeredScene

open Float.Model (UnpackedFloat)
open Float.Model.Format (binary32)
open Float.Model.UnpackedFloat

/-! ## Ranks -/

/-- Where a number stands: by its sign first, and then by exponent and mantissa, which count the
other way for negative numbers. -/
def rankOf : UnpackedFloat → ℤ ×ₗ ℤ ×ₗ ℤ
  | .infinity .negative => toLex (-2, toLex (0, 0))
  | .finite .negative mantissa exponent _ => toLex (-1, toLex (-exponent, -mantissa))
  | .finite .positive mantissa exponent _ => toLex (1, toLex (exponent, mantissa))
  | .infinity .positive => toLex (2, toLex (0, 0))
  | .zero _ | .notANumber => toLex (0, toLex (0, 0))

theorem compare_natCast (m n : ℕ) : compare (m : ℤ) n = compare m n := by
  simp [compare, compareOfLessAndEq]

theorem compare_neg_neg (m n : ℤ) : compare (-m) (-n) = (compare m n).swap := by
  rw [← Std.OrientedOrd.eq_swap]
  simp [compare, compareOfLessAndEq, eq_comm]

theorem compare_eq {a b : UnpackedFloat} (ha : a ≠ .notANumber) (hb : b ≠ .notANumber) :
    a.compare b = some (compare (rankOf a) (rankOf b)) := by
  rcases a with (_ | _) | _ | _ | ⟨_ | _, m, e, hm⟩ <;>
    rcases b with (_ | _) | _ | _ | ⟨_ | _, n, f, hn⟩ <;>
      first | rfl | exact absurd rfl ha | exact absurd rfl hb | skip
  -- What is left is to compare two numbers of the same sign.
  case finite.negative.finite.negative =>
    change some ((compare e f).then (compare m n)).swap =
      some ((compare (-e) (-f)).then (compare (-(m : ℤ)) (-n)))
    rw [compare_neg_neg, compare_neg_neg, compare_natCast, Ordering.swap_then]
  case finite.positive.finite.positive =>
    change some ((compare e f).then (compare m n)) =
      some ((compare e f).then (compare (m : ℤ) n))
    rw [compare_natCast]

/-- Numbers of the same rank are the same, but for the zeros. -/
theorem eq_of_rankOf_eq {a b : UnpackedFloat} (h : rankOf a = rankOf b) (nonzero : rankOf b ≠ 0) :
    a = b := by
  rcases a with (_ | _) | _ | _ | ⟨_ | _, m, e, hm⟩ <;>
    rcases b with (_ | _) | _ | _ | ⟨_ | _, n, f, hn⟩ <;>
      simp_all [rankOf]

/-! ## Comparing singles -/

def rank (x : Float32) : ℤ ×ₗ ℤ ×ₗ ℤ := rankOf x.toModel.unpack

section Comparing

variable {x y : Float32}

theorem unpack_ne_notANumber (h : x.isNaN = false) : x.toModel.unpack ≠ .notANumber := by
  intro unpacked
  rw [Float32.isNaN, Float32.Model.isNaN, unpacked] at h
  cases h

theorem isNaN_of_isFinite (h : x.isFinite) : x.isNaN = false := by
  rw [Float32.isFinite, Float32.Model.isFinite] at h
  rw [Float32.isNaN, Float32.Model.isNaN]
  cases shape : x.toModel.unpack with
  | notANumber => rw [shape] at h; cases h
  | infinity | zero | finite => rfl

theorem lt_iff_rank_lt (hx : x.isNaN = false) (hy : y.isNaN = false) :
    x < y ↔ rank x < rank y := by
  have compared := compare_eq (unpack_ne_notANumber hx) (unpack_ne_notANumber hy)
  change decide (Float.Model.UnpackedFloat.lt _ _ = true) = true ↔ _
  rw [decide_eq_true_iff, Float.Model.UnpackedFloat.lt, compared, beq_iff_eq,
    Option.some_inj, compare_lt_iff_lt]
  rfl

theorem le_iff_rank_le (hx : x.isNaN = false) (hy : y.isNaN = false) :
    x ≤ y ↔ rank x ≤ rank y := by
  have compared := compare_eq (unpack_ne_notANumber hx) (unpack_ne_notANumber hy)
  change decide (Float.Model.UnpackedFloat.le _ _ = true) = true ↔ _
  rw [decide_eq_true_iff, Float.Model.UnpackedFloat.le, compared, Option.any_some,
    Ordering.isLE_iff_ne_gt, ← ne_eq, compare_le_iff_le]
  rfl

/-- Numbers of the same rank are the same, but for the zeros. -/
theorem eq_of_rank_eq (h : rank x = rank y) (nonzero : rank y ≠ 0) : x = y := by
  have unpacked : x.toModel.unpack = y.toModel.unpack := eq_of_rankOf_eq h nonzero
  calc x = Float32.ofBits x.toBits := x.ofBits_toBits.symm
    _ = .ofModel (.pack x.toModel.unpack) := rfl
    _ = .ofModel (.pack y.toModel.unpack) := by rw [unpacked]
    _ = Float32.ofBits y.toBits := rfl
    _ = y := y.ofBits_toBits

end Comparing

/-! ## The greatest finite number -/

theorem rank_greatestSingle : rank greatestSingle = toLex (1, toLex (104, 2 ^ 24 - 1)) := by
  decide +kernel

theorem rank_neg_greatestSingle :
    rank (-greatestSingle) = toLex (-1, toLex (-104, -(2 ^ 24 - 1))) := by
  decide +kernel

theorem finite_bounds {x : Float32} {s : Sign} {mantissa : ℕ} {exponent : ℤ} {pos : 0 < mantissa}
    (h : x.toModel.unpack = .finite s mantissa exponent pos) :
    mantissa < 2 ^ 24 ∧ exponent ≤ 104 := by
  rw [Float32.Model.unpack, unpack] at h
  have stored : (@unpackExponent binary32 x.toModel.toBits.toBitVec).toNat < 2 ^ 8 := BitVec.isLt _
  have fraction : (@unpackMantissa binary32 x.toModel.toBits.toBitVec).toNat < 2 ^ 23 :=
    BitVec.isLt _
  have places : binary32.mantissaBitsWithoutImplicit = 23 := rfl
  have bias : binary32.exponentBias = 127 := by decide
  -- The last exponent is not that of a finite number; then zero, subnormal and normal numbers.
  split at h
  · split at h <;> cases h
  · next notLast =>
    have below : (@unpackExponent binary32 x.toModel.toBits.toBitVec).toNat ≠ 255 := fun last =>
      notLast (BitVec.eq_of_toNat_eq (by simpa using last))
    split at h
    · next first =>
      have none : (@unpackExponent binary32 x.toModel.toBits.toBitVec).toNat = 0 :=
        congrArg BitVec.toNat first
      split at h <;> cases h
      omega
    · cases h
      have whole : (1#1 ++ @unpackMantissa binary32 x.toModel.toBits.toBitVec).toNat < 2 ^ 24 :=
        BitVec.isLt _
      omega

theorem rank_bounds {x : Float32} (h : x.isFinite) :
    rank (-greatestSingle) ≤ rank x ∧ rank x ≤ rank greatestSingle := by
  rw [rank_greatestSingle, rank_neg_greatestSingle]
  rw [Float32.isFinite, Float32.Model.isFinite] at h
  cases shape : x.toModel.unpack with
  | notANumber | infinity => rw [shape] at h; cases h
  | zero s => simp only [rank, shape, rankOf]; decide
  | finite s mantissa exponent pos =>
    obtain ⟨small, low⟩ := finite_bounds shape
    cases s <;> simp [rank, shape, rankOf, Prod.Lex.toLex_le_toLex, -neg_add_rev] <;> omega

/-! ## The lesser and the greater of two numbers -/

section Picking

variable {x y : Float32}

theorem lesser_eq_or (x y : Float32) : lesser x y = x ∨ lesser x y = y := by
  unfold lesser
  split_ifs <;> simp

theorem greater_eq_or (x y : Float32) : greater x y = x ∨ greater x y = y := by
  unfold greater
  split_ifs <;> simp

theorem rank_lesser_le (hx : x.isNaN = false) (hy : y.isNaN = false) :
    rank (lesser x y) ≤ rank x ∧ rank (lesser x y) ≤ rank y := by
  rw [lesser, if_neg (Bool.eq_false_iff.mp hx)]
  split
  · next below => exact ⟨le_of_lt ((lt_iff_rank_lt hy hx).mp below), le_rfl⟩
  · next above => exact ⟨le_rfl, not_lt.mp (mt (lt_iff_rank_lt hy hx).mpr above)⟩

theorem rank_le_greater (hx : x.isNaN = false) (hy : y.isNaN = false) :
    rank x ≤ rank (greater x y) ∧ rank y ≤ rank (greater x y) := by
  rw [greater, if_neg (Bool.eq_false_iff.mp hx)]
  split
  · next above => exact ⟨le_of_lt ((lt_iff_rank_lt hx hy).mp above), le_rfl⟩
  · next below => exact ⟨le_rfl, not_lt.mp (mt (lt_iff_rank_lt hx hy).mpr below)⟩

theorem lesser_self (x : Float32) : lesser x x = x := (lesser_eq_or x x).elim id id

theorem greater_self (x : Float32) : greater x x = x := (greater_eq_or x x).elim id id

/-- A number that is as low as a finite one is that number. -/
theorem lesser_greatestSingle (h : x.isFinite) : lesser greatestSingle x = x := by
  obtain kept | taken := lesser_eq_or greatestSingle x
  · have number : greatestSingle.isNaN = false := by decide +kernel
    have low := (rank_lesser_le number (isNaN_of_isFinite h)).2
    rw [kept] at low ⊢
    have nonzero : rank x ≠ 0 := by
      rw [← le_antisymm low (rank_bounds h).2, rank_greatestSingle]
      decide
    exact eq_of_rank_eq (le_antisymm low (rank_bounds h).2) nonzero
  · exact taken

theorem greater_neg_greatestSingle (h : x.isFinite) : greater (-greatestSingle) x = x := by
  obtain kept | taken := greater_eq_or (-greatestSingle) x
  · have number : (-greatestSingle).isNaN = false := by decide +kernel
    have high := (rank_le_greater number (isNaN_of_isFinite h)).2
    rw [kept] at high ⊢
    have nonzero : rank x ≠ 0 := by
      rw [le_antisymm high (rank_bounds h).1, rank_neg_greatestSingle]
      decide
    exact eq_of_rank_eq (le_antisymm (rank_bounds h).1 high) nonzero
  · exact taken

end Picking

/-! ## The least and the greatest of many -/

section Folds

variable {α β : Type} {op : α → α → α} (picks : ∀ x y, op x y = x ∨ op x y = y)

include picks

theorem foldl_mem_of_picks (xs : List α) (first : α) : xs.foldl op first ∈ first :: xs := by
  induction xs generalizing first with
  | nil => exact List.mem_singleton_self first
  | cons x xs ih =>
    have found := ih (op first x)
    rw [List.foldl_cons]
    obtain kept | taken := picks first x
    · rw [kept] at found ⊢
      exact List.mem_cons.mpr ((List.mem_cons.mp found).imp_right (List.mem_cons_of_mem x))
    · rw [taken] at found ⊢
      exact List.mem_cons_of_mem first found

/-- If each step picks one of two that is below both, what is left is below all. -/
theorem foldl_below_of_picks (below : α → α → Prop) [IsPreorder α below] {good : α → Prop}
    (low : ∀ x y, good x → good y → below (op x y) x ∧ below (op x y) y)
    {xs : List α} {first : α} (all : ∀ x ∈ first :: xs, good x) :
    ∀ x ∈ first :: xs, below (xs.foldl op first) x := by
  induction xs generalizing first with
  | nil =>
    intro x hx
    rw [List.mem_singleton.mp hx]
    exact refl_of below first
  | cons y xs ih =>
    obtain ⟨goodFirst, goodNext, rest⟩ : good first ∧ good y ∧ ∀ x ∈ xs, good x := by
      simpa using all
    have goodPicked : good (op first y) := by
      obtain kept | taken := picks first y
      · rwa [kept]
      · rwa [taken]
    have picked := List.forall_mem_cons.mp
      (@ih (op first y) (List.forall_mem_cons.mpr ⟨goodPicked, rest⟩))
    have both := low first y goodFirst goodNext
    exact List.forall_mem_cons.mpr ⟨trans_of below picked.1 both.1,
      List.forall_mem_cons.mpr ⟨trans_of below picked.1 both.2, picked.2⟩⟩

end Folds

section Extremes

instance : IsPreorder Float32 (rank · ≤ rank ·) where
  refl _ := le_rfl
  trans _ _ _ := le_trans

instance : IsPreorder Float32 (rank · ≥ rank ·) where
  refl _ := le_rfl
  trans _ _ _ := ge_trans

variable {x : Float32} {xs : List Float32}

theorem foldl_lesser_le (numbers : ∀ y ∈ x :: xs, y.isNaN = false) :
    ∀ y ∈ x :: xs, xs.foldl lesser x ≤ y := by
  intro y hy
  have number := numbers _ (foldl_mem_of_picks lesser_eq_or xs x)
  rw [le_iff_rank_le number (numbers y hy)]
  exact foldl_below_of_picks lesser_eq_or (rank · ≤ rank ·)
    (fun _ _ => rank_lesser_le) numbers y hy

theorem le_foldl_greater (numbers : ∀ y ∈ x :: xs, y.isNaN = false) :
    ∀ y ∈ x :: xs, y ≤ xs.foldl greater x := by
  intro y hy
  have number := numbers _ (foldl_mem_of_picks greater_eq_or xs x)
  rw [le_iff_rank_le (numbers y hy) number]
  exact foldl_below_of_picks greater_eq_or (rank · ≥ rank ·)
    (fun _ _ => rank_le_greater) numbers y hy

end Extremes

end LayeredScene
