import Mathlib
import LayeredScene.Mesh.Check

/-! # The flat arrays of a mesh

A renderer gets the coordinates of all vertices in one list, and the corners of all triangles in
another.  The lemmas say how long the two lists are and what is in them, face by face.
-/

namespace LayeredScene

/-- Cutting a face into triangles neither adds nor drops a corner. -/
theorem Face.mem_triangles_iff {ι : Type} {f : Face ι} {v : ι} :
    v ∈ f.triangles ↔ v ∈ f.indices := by
  cases f with
  | tri a b c => rfl
  | quad a b c d =>
    simp only [triangles, indices, List.mem_cons]
    tauto

namespace Mesh

variable {m : Mesh}

theorem length_positions (m : Mesh) : m.positions.length = 3 * m.vertices.length := by
  rw [positions]
  induction m.vertices with
  | nil => rfl
  | cons v vertices ih =>
    have three : v.toList.length = 3 := rfl
    rw [List.flatMap_cons, List.length_append, three, ih, List.length_cons, Nat.mul_succ,
      Nat.add_comm]

/-- A triangle has three corners, and a quadrilateral is cut into two triangles. -/
theorem length_corners (m : Mesh) :
    m.corners.length = 3 * (m.triangleCount + 2 * m.quadrilateralCount) := by
  rw [corners, triangleCount, quadrilateralCount]
  induction m.faces with
  | nil => rfl
  | cons f faces ih =>
    rw [List.flatMap_cons, List.length_append, ih]
    cases f with
    | tri a b c =>
      rw [List.countP_cons_of_pos rfl, List.countP_cons_of_neg Bool.false_ne_true]
      simp only [Face.triangles, List.length_cons, List.length_nil]
      omega
    | quad a b c d =>
      rw [List.countP_cons_of_neg Bool.false_ne_true, List.countP_cons_of_pos rfl]
      simp only [Face.triangles, List.length_cons, List.length_nil]
      omega

theorem mem_corners_iff {i : UInt32} : i ∈ m.corners ↔ ∃ f ∈ m.faces, i ∈ f.indices := by
  simp only [corners, List.mem_flatMap, Face.mem_triangles_iff]

theorem indicesInRange_iff_word :
    m.indicesInRange = true ↔ ∀ i ∈ m.corners, i < UInt32.ofNat m.vertices.length := by
  simp only [indicesInRange, List.all_eq_true, decide_eq_true_eq, mem_corners_iff,
    forall_exists_index, and_imp]
  exact ⟨fun h i f hf hi => h f hf i hi, fun h f hf i hi => h i f hf hi⟩

/-- Where the number of vertices is a word, the indices are compared with it. -/
theorem indicesInRange_iff (small : m.vertices.length < UInt32.size) :
    m.indicesInRange = true ↔ ∀ i ∈ m.corners, i.toNat < m.vertices.length := by
  simp only [indicesInRange_iff_word, UInt32.lt_ofNat_iff small]

theorem all_isFinite_positions (m : Mesh) : m.positions.all Float32.isFinite = m.isFinite := by
  simp [positions, isFinite, Triple.all, Triple.toList, List.all_flatMap, Bool.and_assoc]

end Mesh

end LayeredScene
