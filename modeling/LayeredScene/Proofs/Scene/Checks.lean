import LayeredScene.Scene.Check
import LayeredScene.Proofs.Scene.Lookups

/-! # Exported meshes are as sound as the meshes

A mesh is checked face by face, a geometry of a scene by its two flat arrays.  Whatever the faces
are, the geometry of a mesh has issues exactly where the mesh has: `issues_ofMesh` lists them.  The
arrays themselves are always whole vertices and whole triangles, and the type of array that is
declared for the indices has room for every index that is in range.
-/

namespace LayeredScene

namespace SceneGeometry

open Scene (vertexCount_ofMesh)

/-- The issues of an exported mesh, in order: strays among its indices and numbers that are not
    finite. -/
theorem issues_ofMesh (uuid : String) (m : Mesh) :
    (ofMesh uuid m).issues =
      (if m.indicesInRange then [] else [.outOfRange (.ofNat m.vertices.length)]) ++
        (if m.isFinite then [] else [.notFinite]) := by
  have positions : m.positions.length % 3 = 0 := by rw [m.length_positions]; omega
  have corners : m.corners.length % 3 = 0 := by rw [m.length_corners]; omega
  have strays : m.corners.any (fun i => UInt32.ofNat m.vertices.length ≤ i) =
      !m.indicesInRange := by
    rw [Bool.eq_iff_iff, Bool.not_eq_true', ← Bool.not_eq_true, Mesh.indicesInRange_iff_word]
    simp
  rw [issues, vertexCount_ofMesh]
  simp only [ofMesh, positions, corners, strays, m.all_isFinite_positions, if_true, List.nil_append]
  cases m.indicesInRange <;> rfl

/-! ## Array types -/

/-- How many numbers an array of this type can tell apart. -/
def indexBound? (arrayType : String) : Option Nat :=
  if arrayType = "Uint16Array" then some UInt16.size
  else if arrayType = "Uint32Array" then some UInt32.size
  else none

theorem indexArrayType_cases (count : Nat) :
    (count ≤ UInt16.size ∧ indexArrayType count = "Uint16Array") ∨
      (UInt16.size < count ∧ indexArrayType count = "Uint32Array") := by
  rcases Nat.lt_or_ge UInt16.size count with many | few
  · exact .inr ⟨many, if_neg (Nat.not_le.mpr many)⟩
  · exact .inl ⟨few, if_pos few⟩

theorem exists_indexBound {count : Nat} {is : List UInt32} (inRange : ∀ i ∈ is, i.toNat < count) :
    ∃ bound, indexBound? (indexArrayType count) = some bound ∧ ∀ i ∈ is, i.toNat < bound := by
  rcases indexArrayType_cases count with ⟨few, short⟩ | ⟨-, long⟩
  · rw [short]
    exact ⟨UInt16.size, rfl, fun i hi => Nat.lt_of_lt_of_le (inRange i hi) few⟩
  · rw [long]
    exact ⟨UInt32.size, rfl, fun i _ => i.toNat_lt⟩

/-! ## Exported meshes -/

/-- The geometry that is exported for a mesh has its vertices, the triangles that its faces are cut
    into and the indices of its faces.  It has no issue exactly if the indices of the mesh are in
    range and its coordinates are finite, and its arrays always have whole lengths.  The number of
    vertices is a word, so that the words of the indices can be compared with it.  Indices that are
    in range fit the array type that is declared, which is the longer one only where there are too
    many vertices for the shorter. -/
theorem sound_ofMesh (uuid : String) (m : Mesh) (small : m.vertices.length < UInt32.size) :
    (ofMesh uuid m).vertexCount = m.vertices.length ∧
    (ofMesh uuid m).triangleCount = m.triangleCount + 2 * m.quadrilateralCount ∧
    (∀ i, i ∈ (ofMesh uuid m).indices.values ↔ ∃ f ∈ m.faces, i ∈ f.indices) ∧
    ((ofMesh uuid m).issues = [] ↔ m.indicesInRange = true ∧ m.isFinite = true) ∧
    (∀ length, .positionLength length ∉ (ofMesh uuid m).issues ∧
      .indexLength length ∉ (ofMesh uuid m).issues) ∧
    (∀ i, i < UInt32.ofNat (ofMesh uuid m).vertexCount ↔ i.toNat < m.vertices.length) ∧
    (m.indicesInRange = true → ∃ bound,
      indexBound? (ofMesh uuid m).indices.kind = some bound ∧
        ∀ i ∈ (ofMesh uuid m).indices.values, i.toNat < bound) ∧
    ((ofMesh uuid m).indices.kind = "Uint32Array" ↔ 65536 < m.vertices.length) := by
  refine ⟨vertexCount_ofMesh uuid m, ?_, fun i => Mesh.mem_corners_iff, ?_, fun length => ?_,
    fun i => ?_, fun inRange => ?_, ?_⟩
  · show m.corners.length / 3 = _
    rw [m.length_corners, Nat.mul_div_cancel_left _ (by decide)]
  · rw [issues_ofMesh]
    cases m.indicesInRange <;> cases m.isFinite <;> simp
  · rw [issues_ofMesh]
    cases m.indicesInRange <;> cases m.isFinite <;> simp
  · rw [vertexCount_ofMesh, UInt32.lt_ofNat_iff small]
  · exact exists_indexBound ((Mesh.indicesInRange_iff small).mp inRange)
  · show indexArrayType m.vertices.length = _ ↔ _
    rcases indexArrayType_cases m.vertices.length with ⟨few, short⟩ | ⟨many, long⟩
    · rw [short]
      exact ⟨fun h => absurd h (by decide), fun h => absurd few (Nat.not_le.mpr h)⟩
    · rw [long]
      exact ⟨fun _ => many, fun _ => rfl⟩

/-- A quadrilateral and a triangle, of which one corner is no vertex. -/
def torn : Mesh where
  shape := .pyramid
  vertices := [⟨0, 0, 0⟩, ⟨1, 0, 0⟩, ⟨1, 1, 0⟩, ⟨0, 1, 0⟩]
  faces := [.quad 0 1 2 3, .tri 0 1 4]

def mended : Mesh :=
  { torn with vertices := torn.vertices ++ [⟨0.5, 0.5, 1⟩] }

theorem sound_ofMesh_torn_and_mended :
    (torn.vertices.length < UInt32.size ∧ ¬ torn.indicesInRange = true ∧
      (ofMesh "m" torn).triangleCount = 3 ∧ (ofMesh "m" torn).issues ≠ []) ∧
    (mended.vertices.length < UInt32.size ∧ mended.indicesInRange = true ∧
      mended.isFinite = true ∧ (ofMesh "m" mended).issues = [] ∧
      ∃ bound, indexBound? (ofMesh "m" mended).indices.kind = some bound ∧ bound = 65536 ∧
        ∀ i ∈ (ofMesh "m" mended).indices.values, i.toNat < bound) := by
  have small : torn.vertices.length < UInt32.size := by decide
  have stray : ¬ torn.indicesInRange = true := by decide
  obtain ⟨-, triangles, -, sound, -⟩ := sound_ofMesh "m" torn small
  have small' : mended.vertices.length < UInt32.size := by decide
  have inRange : mended.indicesInRange = true := by decide
  have finite : mended.isFinite = true := by decide +kernel
  obtain ⟨-, -, -, sound', -, -, fits, -⟩ := sound_ofMesh "m" mended small'
  obtain ⟨bound, declared, below⟩ := fits inRange
  exact ⟨⟨small, stray, triangles, fun none => stray (sound.mp none).1⟩, small', inRange, finite,
    sound'.mpr ⟨inRange, finite⟩, bound, declared, (Option.some.inj declared).symm, below⟩

end SceneGeometry

end LayeredScene
