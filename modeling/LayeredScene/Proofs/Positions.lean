/-! # Positions in filtered, joined and numbered lists

Where an element of a list ends up when the list is filtered, or when the lists that its elements
stand for are joined.  Both come in three parts: the element is found at its new position, every
new position is that of an element, and different elements have different positions.  In a numbered
list an element keeps its position, and its number is that much above the first.
-/

namespace LayeredScene

variable {α β : Type}

/-! ## Filtered lists -/

/-- How many of the first `i` elements a filter keeps: the position of the `i`-th one among those
    that are kept. -/
def keptBefore (f : α → Option β) (xs : List α) (i : Nat) : Nat :=
  ((xs.take i).filterMap f).length

theorem take_append_getElem_cons {xs : List α} {i : Nat} {x : α} (hx : xs[i]? = some x) :
    xs = xs.take i ++ x :: xs.drop (i + 1) := by
  obtain ⟨hi, rfl⟩ := List.getElem?_eq_some_iff.1 hx
  rw [← List.drop_eq_getElem_cons hi, List.take_append_drop]

theorem lt_length_of_getElem? {xs : List α} {i : Nat} {x : α} (hx : xs[i]? = some x) :
    i < xs.length :=
  (List.getElem?_eq_some_iff.mp hx).1

theorem filterMap_take_succ (f : α → Option β) {xs : List α} {i : Nat} {x : α}
    (hx : xs[i]? = some x) :
    (xs.take (i + 1)).filterMap f = (xs.take i).filterMap f ++ (f x).toList := by
  rw [List.take_add_one, hx, List.filterMap_append]
  cases hf : f x <;> simp [hf]

theorem getElem?_filterMap_keptBefore {f : α → Option β} {xs : List α} {i : Nat} {x : α} {y : β}
    (hx : xs[i]? = some x) (hy : f x = some y) :
    (xs.filterMap f)[keptBefore f xs i]? = some y := by
  -- What is kept of the elements before, then the element, then the others.
  have split := congrArg (List.filterMap f) (take_append_getElem_cons hx)
  rw [List.filterMap_append, List.filterMap_cons_some hy] at split
  rw [split, keptBefore, List.getElem?_append_right (Nat.le_refl _)]
  simp

theorem exists_keptBefore {f : α → Option β} {xs : List α} {p : Nat} {y : β}
    (hy : (xs.filterMap f)[p]? = some y) :
    ∃ i x, xs[i]? = some x ∧ f x = some y ∧ keptBefore f xs i = p := by
  induction xs generalizing p with
  | nil => simp at hy
  | cons x xs ih =>
    -- If the first element is kept, the positions behind it move on by one.
    cases hf : f x with
    | none =>
      rw [List.filterMap_cons_none hf] at hy
      obtain ⟨i, x', hx', hy', hp⟩ := ih hy
      exact ⟨i + 1, x', by simpa using hx', hy', by simpa [keptBefore, hf] using hp⟩
    | some y' =>
      rw [List.filterMap_cons_some hf] at hy
      cases p with
      | zero => exact ⟨0, x, rfl, by simpa [hf] using hy, rfl⟩
      | succ p =>
        obtain ⟨i, x', hx', hy', hp⟩ := ih (by simpa using hy)
        exact ⟨i + 1, x', by simpa using hx', hy', by simpa [keptBefore, hf] using hp⟩

theorem keptBefore_mono (f : α → Option β) (xs : List α) {i i' : Nat} (h : i ≤ i') :
    keptBefore f xs i ≤ keptBefore f xs i' :=
  ((List.take_sublist_take_left h).filterMap f).length_le

theorem keptBefore_lt {f : α → Option β} {xs : List α} {i i' : Nat} {x : α} {y : β}
    (hx : xs[i]? = some x) (hy : f x = some y) (h : i < i') :
    keptBefore f xs i < keptBefore f xs i' := by
  -- Behind a kept element one more is counted.
  have step : keptBefore f xs (i + 1) = keptBefore f xs i + 1 := by
    simp [keptBefore, filterMap_take_succ f hx, hy]
  have := keptBefore_mono f xs (show i + 1 ≤ i' from h)
  omega

theorem keptBefore_inj {f : α → Option β} {xs : List α} {i i' : Nat} {x x' : α} {y y' : β}
    (hx : xs[i]? = some x) (hy : f x = some y) (hx' : xs[i']? = some x') (hy' : f x' = some y')
    (h : keptBefore f xs i = keptBefore f xs i') : i = i' := by
  rcases Nat.lt_trichotomy i i' with lt | eq | gt
  · exact absurd h (Nat.ne_of_lt (keptBefore_lt hx hy lt))
  · exact eq
  · exact absurd h (Nat.ne_of_gt (keptBefore_lt hx' hy' gt))

/-- A filter that keeps everything keeps the positions. -/
theorem getElem?_filterMap_of_isSome {f : α → Option β} {xs : List α}
    (h : ∀ x ∈ xs, (f x).isSome) (k : Nat) : (xs.filterMap f)[k]? = xs[k]?.bind f := by
  induction xs generalizing k with
  | nil => simp
  | cons x xs ih =>
    obtain ⟨y, hy⟩ := Option.isSome_iff_exists.1 (h x List.mem_cons_self)
    have rest := ih fun x' hx' => h x' (List.mem_cons_of_mem _ hx')
    rw [List.filterMap_cons_some hy]
    cases k with
    | zero => simp [hy]
    | succ k => simpa using rest k

/-! ## Joined lists -/

/-- How many elements come before those that the `k`-th element stands for. -/
def joinedBefore (f : α → List β) (xs : List α) (k : Nat) : Nat :=
  ((xs.take k).flatMap f).length

theorem joinedBefore_succ (f : α → List β) {xs : List α} {k : Nat} {x : α}
    (hx : xs[k]? = some x) : joinedBefore f xs (k + 1) = joinedBefore f xs k + (f x).length := by
  simp [joinedBefore, List.take_add_one, hx]

theorem joinedBefore_mono (f : α → List β) (xs : List α) {k k' : Nat} (h : k ≤ k') :
    joinedBefore f xs k ≤ joinedBefore f xs k' := by
  obtain ⟨d, rfl⟩ := Nat.exists_eq_add_of_le h
  simp [joinedBefore, List.take_add]

theorem joinedBefore_le_length (f : α → List β) (xs : List α) (k : Nat) :
    joinedBefore f xs k ≤ (xs.flatMap f).length := by
  have split := congrArg (fun ys => (ys.flatMap f).length) (List.take_append_drop k xs)
  simp only [List.flatMap_append, List.length_append] at split
  rw [← split]
  exact Nat.le_add_right _ _

/-- Lists whose elements stand for equally many elements are joined at the same places. -/
theorem joinedBefore_congr {γ δ : Type} {f : α → List β} {g : γ → List δ} {xs : List α}
    {ys : List γ} (h : xs.map (fun x => (f x).length) = ys.map fun y => (g y).length) (k : Nat) :
    joinedBefore f xs k = joinedBefore g ys k := by
  rw [joinedBefore, joinedBefore, List.length_flatMap, List.length_flatMap, List.map_take, h,
    ← List.map_take]

theorem joinedBefore_of_length {f : α → List β} {xs : List α} {size : Nat}
    (h : ∀ x ∈ xs, (f x).length = size) {k : Nat} (hk : k ≤ xs.length) :
    joinedBefore f xs k = size * k := by
  induction k with
  | zero => rfl
  | succ k ih =>
    rw [joinedBefore_succ f (List.getElem?_eq_getElem hk), ih (Nat.le_of_succ_le hk),
      h _ (List.getElem_mem hk), Nat.mul_succ]

theorem getElem?_flatMap_joinedBefore {f : α → List β} {xs : List α} {k i : Nat} {x : α}
    (hx : xs[k]? = some x) (hi : i < (f x).length) :
    (xs.flatMap f)[joinedBefore f xs k + i]? = (f x)[i]? := by
  have split := congrArg (List.flatMap f) (take_append_getElem_cons hx)
  rw [List.flatMap_append, List.flatMap_cons] at split
  rw [split, joinedBefore, List.getElem?_append_right (Nat.le_add_right _ _),
    Nat.add_sub_cancel_left, List.getElem?_append_left hi]

theorem exists_joinedBefore {f : α → List β} {xs : List α} {p : Nat} {y : β}
    (hy : (xs.flatMap f)[p]? = some y) :
    ∃ k x i, xs[k]? = some x ∧ (f x)[i]? = some y ∧ joinedBefore f xs k + i = p := by
  induction xs generalizing p with
  | nil => simp at hy
  | cons x xs ih =>
    rw [List.flatMap_cons] at hy
    -- The position is within what the first element stands for, or behind it.
    by_cases hp : p < (f x).length
    · rw [List.getElem?_append_left hp] at hy
      exact ⟨0, x, p, rfl, hy, by simp [joinedBefore]⟩
    · rw [List.getElem?_append_right (Nat.le_of_not_lt hp)] at hy
      obtain ⟨k, x', i, hx', hi, hk⟩ := ih hy
      refine ⟨k + 1, x', i, by simpa using hx', hi, ?_⟩
      simp only [joinedBefore, List.take_succ_cons, List.flatMap_cons, List.length_append] at hk ⊢
      omega

theorem joinedBefore_inj {f : α → List β} {xs : List α} {k k' i i' : Nat} {x x' : α}
    (hx : xs[k]? = some x) (hi : i < (f x).length) (hx' : xs[k']? = some x')
    (hi' : i' < (f x').length) (h : joinedBefore f xs k + i = joinedBefore f xs k' + i') :
    k = k' ∧ i = i' := by
  -- All that an element stands for comes before what a later one stands for.
  have bound := joinedBefore_succ f hx
  have bound' := joinedBefore_succ f hx'
  rcases Nat.lt_trichotomy k k' with lt | rfl | gt
  · have := joinedBefore_mono f xs (show k + 1 ≤ k' from lt)
    omega
  · exact ⟨rfl, by omega⟩
  · have := joinedBefore_mono f xs (show k' + 1 ≤ k from gt)
    omega

/-! ## Numbered lists -/

theorem map_zipIdx_append (f : α × Nat → β) (xs ys : List α) (k : Nat) :
    ((xs ++ ys).zipIdx k).map f = (xs.zipIdx k).map f ++ (ys.zipIdx (k + xs.length)).map f := by
  rw [List.zipIdx_append, List.map_append]

theorem getElem?_map_zipIdx (f : α × Nat → β) (xs : List α) (k i : Nat) :
    ((xs.zipIdx k).map f)[i]? = xs[i]?.map fun x => f (x, k + i) := by
  rw [List.getElem?_map, List.getElem?_zipIdx, Option.map_map]
  rfl

theorem map_zipIdx_snd (f : Nat → β) (xs : List α) :
    xs.zipIdx.map (fun x => f x.2) = (List.range xs.length).map f := by
  rw [List.range_eq_range', ← List.zipIdx_map_snd 0 xs, List.map_map]
  rfl

end LayeredScene
