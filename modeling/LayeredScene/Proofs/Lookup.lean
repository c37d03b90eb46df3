import LayeredScene.Glb.OfScene
import LayeredScene.Proofs.Positions

/-! # Looking up by a key

Resources are looked up by their identifiers in two ways: `List.find?` takes the first match,
`Gltf.lastIdx?` the last.  Where the keys are distinct there is only one match, and both find it.
-/

namespace LayeredScene

variable {α : Type} {xs : List α} {k : Nat} {x : α}

/-! ## The only match -/

/-- The place of an element is the only one that satisfies a test. -/
def OnlyAt (p : α → Bool) (xs : List α) (k : Nat) : Prop :=
  ∀ j y, xs[j]? = some y → p y → j = k

theorem onlyAt_of_nodup {key : α → String} (distinct : (xs.map key).Nodup)
    (hx : xs[k]? = some x) : OnlyAt (key · == key x) xs k := by
  intro j y hy same
  have inside : j < (xs.map key).length := by
    simpa using lt_length_of_getElem? hy
  -- Both places have the same key, and keys are distinct.
  have keys : (xs.map key)[j]? = (xs.map key)[k]? := by simp [hx, hy, beq_iff_eq.mp same]
  exact (List.getElem?_inj inside distinct).mp keys

theorem find?_of_onlyAt {p : α → Bool} (hx : xs[k]? = some x) (px : p x) (only : OnlyAt p xs k) :
    xs.find? p = some x := by
  obtain ⟨inside, rfl⟩ := List.getElem?_eq_some_iff.mp hx
  refine List.find?_eq_some_iff_getElem.mpr ⟨px, k, inside, rfl, fun j before => ?_⟩
  -- Nothing before the place satisfies the test.
  rw [Bool.not_eq_true', Bool.eq_false_iff]
  intro satisfies
  exact Nat.ne_of_lt before (only j _ (List.getElem?_eq_getElem _) satisfies)

theorem lastIdx?_of_onlyAt {p : α → Bool} (hx : xs[k]? = some x) (px : p x)
    (only : OnlyAt p xs k) : Gltf.lastIdx? p xs = some k := by
  have here : xs.zipIdx[k]? = some (x, k) := by simp [List.getElem?_zipIdx, hx]
  -- Nothing behind the place satisfies the test.
  have after : (xs.zipIdx.drop (k + 1)).filter (p ·.1) = [] := by
    rw [List.filter_eq_nil_iff]
    rintro ⟨y, i⟩ hy satisfies
    obtain ⟨j, hj⟩ := List.getElem?_of_mem hy
    rw [List.getElem?_drop, List.getElem?_zipIdx, Option.map_eq_some_iff] at hj
    obtain ⟨_, hy', ⟨⟩⟩ := hj
    have := only _ _ hy' satisfies
    omega
  rw [Gltf.lastIdx?, take_append_getElem_cons here]
  simp [after, px]

/-! ## Any match -/

theorem exists_of_lastIdx? {p : α → Bool} (h : Gltf.lastIdx? p xs = some k) :
    ∃ x, xs[k]? = some x ∧ p x := by
  rw [Gltf.lastIdx?, Option.map_eq_some_iff] at h
  obtain ⟨⟨x, i⟩, last, rfl⟩ := h
  obtain ⟨listed, px⟩ := List.mem_filter.mp (List.mem_of_getLast? last)
  exact ⟨x, List.mem_zipIdx_iff_getElem?.mp listed, px⟩

theorem isSome_lastIdx? (p : α → Bool) (xs : List α) :
    (Gltf.lastIdx? p xs).isSome = xs.any p := by
  rw [Bool.eq_iff_iff, List.any_eq_true]
  constructor
  · intro found
    obtain ⟨k, hk⟩ := Option.isSome_iff_exists.mp found
    obtain ⟨x, hx, px⟩ := exists_of_lastIdx? hk
    exact ⟨x, List.mem_of_getElem? hx, px⟩
  · rintro ⟨x, hx, px⟩
    obtain ⟨k, hk⟩ := List.getElem?_of_mem hx
    -- The filter keeps the element, with its number, so that there is a last one.
    have kept : (x, k) ∈ xs.zipIdx.filter (p ·.1) :=
      List.mem_filter.mpr ⟨List.mem_zipIdx_iff_getElem?.mpr hk, px⟩
    rw [Gltf.lastIdx?, Option.isSome_map, List.getLast?_isSome]
    exact List.ne_nil_of_mem kept

theorem lastIdx?_eq_none {p : α → Bool} (h : ∀ x ∈ xs, p x = false) :
    Gltf.lastIdx? p xs = none := by
  rw [← Option.not_isSome_iff_eq_none, isSome_lastIdx?, List.any_eq_true]
  rintro ⟨x, hx, px⟩
  rw [h x hx] at px
  cases px

end LayeredScene
