import Mathlib

/-! # Traversals that may fail

A traversal of a list in `Except` or in `Option` succeeds exactly if every step does, and then it
yields the results of the steps in order.
-/

namespace LayeredScene

variable {ε α β : Type}

theorem exists_eq_ok {x : Except ε α} (h : x.isOk = true) : ∃ a, x = .ok a := by
  cases x with
  | error e => cases h
  | ok a => exact ⟨a, rfl⟩

theorem exists_eq_ok_of {x : Except ε α} {p : α → Bool} (h : x.toOption.any p = true) :
    ∃ a, x = .ok a ∧ p a = true := by
  cases x with
  | error e => cases h
  | ok a => exact ⟨a, rfl, h⟩

/-- Two steps work exactly as their results do one after the other. -/
theorem bind_eq_ok {x : Except ε α} {f : α → Except ε β} {b : β} (h : x >>= f = .ok b) :
    ∃ a, x = .ok a ∧ f a = .ok b := by
  cases x with
  | error e => cases h
  | ok a => exact ⟨a, rfl, h⟩

theorem map_eq_ok {x : Except ε α} {f : α → β} {b : β} (h : f <$> x = .ok b) :
    ∃ a, x = .ok a ∧ f a = b := by
  cases x with
  | error e => cases h
  | ok a => exact ⟨a, rfl, Except.ok.inj h⟩

/-- If the results are seen alike, both computations work or both fail in the same way. -/
theorem ok_ok_or_error_error {f : α → β} {x y : Except ε α} (same : f <$> x = f <$> y) :
    (∃ a b, x = .ok a ∧ y = .ok b ∧ f a = f b) ∨ ∃ e, x = .error e ∧ y = .error e := by
  cases x with
  | ok a =>
    cases y with
    | ok b => exact .inl ⟨a, b, rfl, rfl, Except.ok.inj same⟩
    | error e => cases same
  | error e =>
    cases y with
    | ok b => cases same
    | error e' => exact .inr ⟨e, rfl, congrArg Except.error (Except.error.inj same).symm⟩

theorem mapM_cons_ok {f : α → Except ε β} {x : α} {xs : List α} {ys : List β}
    (h : (x :: xs).mapM f = .ok ys) :
    ∃ y ys', f x = .ok y ∧ xs.mapM f = .ok ys' ∧ ys = y :: ys' := by
  rw [List.mapM_cons] at h
  obtain ⟨y, hx, h⟩ := bind_eq_ok h
  obtain ⟨ys', hxs, h⟩ := bind_eq_ok h
  exact ⟨y, ys', hx, hxs, (Except.ok.inj h).symm⟩

theorem length_of_mapM_ok {f : α → Except ε β} {xs : List α} {ys : List β}
    (h : xs.mapM f = .ok ys) : ys.length = xs.length := by
  induction xs generalizing ys with
  | nil => cases h; rfl
  | cons x xs ih =>
    obtain ⟨y, ys', -, hxs, rfl⟩ := mapM_cons_ok h
    simp [ih hxs]

/-- Every result of a traversal that works is that of its step. -/
theorem getElem?_of_mapM_ok {f : α → Except ε β} {xs : List α} {ys : List β} {k : Nat} {x : α}
    (h : xs.mapM f = .ok ys) (hx : xs[k]? = some x) : ∃ y, ys[k]? = some y ∧ f x = .ok y := by
  induction xs generalizing ys k with
  | nil => simp at hx
  | cons x' xs ih =>
    obtain ⟨y, ys', hy, hxs, rfl⟩ := mapM_cons_ok h
    cases k with
    | zero =>
      obtain rfl : x' = x := by simpa using hx
      exact ⟨y, rfl, hy⟩
    | succ k => simpa using ih hxs (by simpa using hx)

/-- A traversal works exactly if each of its steps does. -/
theorem exists_mapM_ok_iff {f : α → Except ε β} {xs : List α} :
    (∃ ys, xs.mapM f = .ok ys) ↔ ∀ x ∈ xs, ∃ y, f x = .ok y := by
  constructor
  · rintro ⟨ys, h⟩ x hx
    obtain ⟨k, hk⟩ := List.getElem?_of_mem hx
    obtain ⟨y, -, hy⟩ := getElem?_of_mapM_ok h hk
    exact ⟨y, hy⟩
  · intro h
    induction xs with
    | nil => exact ⟨[], rfl⟩
    | cons x xs ih =>
      obtain ⟨y, hy⟩ := h x List.mem_cons_self
      obtain ⟨ys, hys⟩ := ih fun x hx => h x (List.mem_cons_of_mem _ hx)
      refine ⟨y :: ys, ?_⟩
      rw [List.mapM_cons, hy, hys]
      rfl

/-- Doing something with the result makes no difference to whether there is one. -/
theorem exists_map_ok_iff {f : α → β} {x : Except ε α} :
    (∃ b, f <$> x = .ok b) ↔ ∃ a, x = .ok a := by
  constructor
  · rintro ⟨b, h⟩
    obtain ⟨a, ha, -⟩ := map_eq_ok h
    exact ⟨a, ha⟩
  · rintro ⟨a, rfl⟩
    exact ⟨f a, rfl⟩

theorem mapM_append_ok {f : α → Except ε β} {xs xs' : List α} {ys : List β}
    (h : (xs ++ xs').mapM f = .ok ys) :
    ∃ us us', xs.mapM f = .ok us ∧ xs'.mapM f = .ok us' ∧ ys = us ++ us' := by
  induction xs generalizing ys with
  | nil => exact ⟨[], ys, rfl, h, rfl⟩
  | cons x xs ih =>
    obtain ⟨y, ys', hx, rest, rfl⟩ := mapM_cons_ok h
    obtain ⟨us, us', hus, hus', rfl⟩ := ih rest
    refine ⟨y :: us, us', ?_, hus', rfl⟩
    simp [List.mapM_cons, hx, hus, bind, Except.bind, pure, Except.pure]

/-! ## Element by element -/

theorem map_eq_map_iff_forall₂ {γ : Type} {f : α → γ} {g : β → γ} {xs : List α} {ys : List β} :
    xs.map f = ys.map g ↔ List.Forall₂ (fun x y => f x = g y) xs ys := by
  rw [← List.forall₂_eq_eq_eq, List.forall₂_map_left_iff, List.forall₂_map_right_iff]

/-- A traversal of which every step yields the element at its place. -/
theorem mapM_of_forall₂ {f : α → Option β} {xs : List α} {ys : List β}
    (h : List.Forall₂ (fun x y => f x = some y) xs ys) : xs.mapM f = some ys := by
  induction h with
  | nil => rfl
  | cons hx _ ih => simp [List.mapM_cons, hx, ih]

theorem mapM_eq_some_map {f : α → Option β} {g : α → β} {xs : List α}
    (h : ∀ x ∈ xs, f x = some (g x)) : xs.mapM f = some (xs.map g) :=
  mapM_of_forall₂ (List.forall₂_map_right_iff.mpr (List.forall₂_same.mpr h))

theorem mapM_eq_none_of_mem {f : α → Option β} {xs : List α} {x : α} (hx : x ∈ xs)
    (h : f x = none) : xs.mapM f = none := by
  induction xs with
  | nil => cases hx
  | cons y xs ih =>
    rw [List.mapM_cons]
    -- The step fails here, or some later one does.
    rcases List.mem_cons.mp hx with rfl | later
    · simp [h]
    · simp [ih later]

theorem mapM_congr {m : Type → Type} [Monad m] [LawfulMonad m] {f g : α → m β} {xs : List α}
    (h : ∀ x ∈ xs, f x = g x) : xs.mapM f = xs.mapM g := by
  induction xs with
  | nil => rfl
  | cons x xs ih =>
    rw [List.mapM_cons, List.mapM_cons, h x List.mem_cons_self,
      ih fun y hy => h y (List.mem_cons_of_mem _ hy)]

/-- What is done with every result can be done at the end. -/
theorem mapM_map_result {γ : Type} {m : Type → Type} [Monad m] [LawfulMonad m] (f : α → m β)
    (g : β → γ) (xs : List α) : (xs.mapM fun x => g <$> f x) = List.map g <$> xs.mapM f := by
  induction xs with
  | nil => simp
  | cons x xs ih =>
    simp only [List.mapM_cons, ih, bind_map_left, map_bind, map_pure, List.map_cons]

theorem filterMap_map_comm {γ δ : Type} {f : α → β} {g : γ → δ} {p : α → Option γ}
    {q : β → Option δ} (h : ∀ x, q (f x) = (p x).map g) (xs : List α) :
    (xs.map f).filterMap q = (xs.filterMap p).map g := by
  rw [List.filterMap_map, List.map_filterMap]
  exact List.filterMap_congr fun x _ => h x

theorem forall₂_of_getElem? {R : α → β → Prop} {xs : List α} {ys : List β}
    (length : xs.length = ys.length)
    (h : ∀ (k : Nat) x y, xs[k]? = some x → ys[k]? = some y → R x y) : List.Forall₂ R xs ys := by
  rw [List.forall₂_iff_get]
  refine ⟨length, fun k hx hy => h k _ _ ?_ ?_⟩
  · exact List.getElem?_eq_getElem hx
  · exact List.getElem?_eq_getElem hy

theorem forall₂_filterMap {γ : Type} {R : β → γ → Prop} {f : α → Option β} {g : α → Option γ}
    {xs : List α} (h : ∀ x ∈ xs, Option.Rel R (f x) (g x)) :
    List.Forall₂ R (xs.filterMap f) (xs.filterMap g) := by
  induction xs with
  | nil => exact .nil
  | cons x xs ih =>
    -- Both filters keep the first element or neither does; the relation excludes the mixed cases.
    have rest := ih fun y hy => h y (List.mem_cons_of_mem _ hy)
    cases hf : f x with
    | none =>
      cases hg : g x with
      | none => simpa [hf, hg] using rest
      | some c => simpa [hf, hg] using h x List.mem_cons_self
    | some b =>
      cases hg : g x with
      | none => simpa [hf, hg] using h x List.mem_cons_self
      | some c =>
        have both := h x List.mem_cons_self
        rw [hf, hg, Option.rel_some_some] at both
        simpa [hf, hg] using ⟨both, rest⟩

end LayeredScene
