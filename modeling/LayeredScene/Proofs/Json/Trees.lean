import LayeredScene.Proofs.Json.RoundTrip

/-! # The trees of written values

What is read of a written list or object is that of its parts, and it is nested one deeper than the
deepest of them.
-/

namespace LayeredScene

namespace Draft

theorem ofItems_eq_map (items : List Json) : ofItems items = items.map ofJson := by
  induction items with
  | nil => rfl
  | cons x xs ih => rw [ofItems, ih, List.map_cons]

theorem ofMembers_eq_map (members : List (String × Json)) :
    ofMembers members = members.map fun m => (some m.1, ofJson m.2) := by
  induction members with
  | nil => rfl
  | cons m ms ih => rw [ofMembers, ih, List.map_cons]

theorem ofMembers_append (members members' : List (String × Json)) :
    ofMembers (members ++ members') = ofMembers members ++ ofMembers members' := by
  rw [ofMembers_eq_map, ofMembers_eq_map, ofMembers_eq_map, List.map_append]

end Draft

namespace Json

theorem nestingItems_le {items : List Json} {bound : Nat} (h : ∀ x ∈ items, x.nesting ≤ bound) :
    nestingItems items ≤ bound := by
  induction items with
  | nil => exact Nat.zero_le bound
  | cons x xs ih =>
    rw [nestingItems]
    exact Nat.max_le.mpr ⟨h x List.mem_cons_self, ih fun y hy => h y (List.mem_cons_of_mem _ hy)⟩

theorem nestingMembers_le {members : List (String × Json)} {bound : Nat}
    (h : ∀ m ∈ members, m.2.nesting ≤ bound) : nestingMembers members ≤ bound := by
  induction members with
  | nil => exact Nat.zero_le bound
  | cons m ms ih =>
    rw [nestingMembers]
    exact Nat.max_le.mpr ⟨h m List.mem_cons_self, ih fun n hn => h n (List.mem_cons_of_mem _ hn)⟩

/-- A list is nested one deeper than its items. -/
theorem nesting_map_le {α : Type} {f : α → Json} {bound : Nat} (h : ∀ x, (f x).nesting ≤ bound)
    (xs : List α) : (Json.list (xs.map f)).nesting ≤ bound + 1 := by
  rw [nesting]
  refine Nat.succ_le_succ (nestingItems_le fun y hy => ?_)
  obtain ⟨x, -, rfl⟩ := List.mem_map.mp hy
  exact h x

@[simp] theorem nesting_nat (n : Nat) : (Json.nat n).nesting = 0 := rfl

@[simp] theorem nesting_double (x : Float) : (Json.double x).nesting = 0 := by
  unfold double
  cases Numeral.ofDouble? x <;> rfl

@[simp] theorem nesting_single (x : Float32) : (Json.single x).nesting = 0 := by
  unfold single
  cases Numeral.ofSingle? x <;> rfl

end Json

end LayeredScene
