import LayeredScene.Proofs.Mesh.Arrays
import LayeredScene.Proofs.Mesh.Words

/-! # Generated meshes are valid

Up to a number of divisions that depends on the shape no operation on words overflows, and from the
next number on one does.  Within these bounds a mesh has the vertices and the faces that its shape
says, and passes the checks of `Mesh.Check`, but for the cylinders and the cones with one division
or with the most that they can have.
-/

namespace LayeredScene.Mesh

variable {shape : Shape} {p : ShapeSpec} {m : Mesh}

theorem divisions_lt (segments : UInt32) : divisions segments < 2 ^ 32 :=
  (max segments fewestDivisions).toNat_lt

/-! ## Bounds -/

theorem gridVertices_lt_iff (n : Nat) : (n + 1) ^ 2 < UInt32.size ↔ n ≤ 65534 := by
  rw [show UInt32.size = 65536 ^ 2 from rfl, Nat.pow_lt_pow_iff_left (by decide)]
  omega

theorem vertexCountOf_le (shape : Shape) {n : Nat} (hn : n ≤ mostDivisions shape) :
    vertexCountOf shape n ≤ UInt32.size := by
  cases shape <;> simp only [vertexCountOf, mostDivisions, UInt32.size] at hn ⊢
  case sphere | blob | egg | droplet => exact ((gridVertices_lt_iff n).mpr hn).le
  all_goals omega

/-- The faces come out of checked operations exactly if there are not too many divisions. -/
theorem faceWords?_eq (shape : Shape) (p : ShapeSpec) :
    faceWords? shape p = if divisions p.segments ≤ mostDivisions shape then
      some ((facesOf shape (divisions p.segments)).map (·.map UInt32.ofNat)) else none := by
  have hn := one_le_divisions p.segments
  have word := divisions_lt p.segments
  cases shape with
  | cube => exact (if_pos (Nat.le_pred_of_lt word)).symm
  | pyramid => exact (if_pos (Nat.le_pred_of_lt word)).symm
  | cylinder =>
    have bound : vertexCountOf .cylinder (divisions p.segments) ≤ UInt32.size ↔
        divisions p.segments ≤ mostDivisions .cylinder := by
      simp only [vertexCountOf, mostDivisions, UInt32.size]
      omega
    simp only [← bound]
    exact (cylinderFaceWords?_eq _).trans (mapM_words?_facesOf .cylinder hn)
  | cone =>
    have bound : vertexCountOf .cone (divisions p.segments) ≤ UInt32.size ↔
        divisions p.segments ≤ mostDivisions .cone := by
      simp only [vertexCountOf, mostDivisions, UInt32.size]
      omega
    simp only [← bound]
    exact (coneFaceWords?_eq _).trans (mapM_words?_facesOf .cone hn)
  | sphere | blob | egg | droplet =>
    simp only [mostDivisions, ← gridVertices_lt_iff]
    exact gridFaceWords?_eq _

/-! ## Words for numbers -/

theorem toNat_ofNat_of_mem_facesOf {n v : Nat} {f : Face Nat} (hn : 1 ≤ n)
    (bounded : n ≤ mostDivisions shape) (hf : f ∈ facesOf shape n) (hv : v ∈ f.indices) :
    (UInt32.ofNat v).toNat = v :=
  UInt32.toNat_ofNat_of_lt'
    (Nat.lt_of_lt_of_le (lt_vertexCountOf hn hf hv) (vertexCountOf_le shape bounded))

theorem lt_of_ofSpec (generated : ofSpec shape p = .ok m)
    (bounded : divisions p.segments ≤ mostDivisions shape) :
    ∀ f ∈ m.faces, ∀ i ∈ f.indices, i.toNat < m.vertices.length := by
  have hn := one_le_divisions p.segments
  obtain ⟨vertices, faces⟩ := ofSpec_eq_ok generated
  simp only [faces, vertices, List.mem_map, forall_exists_index, and_imp,
    forall_apply_eq_imp_iff₂, Face.indices_map]
  intro f hf v hv
  rw [toNat_ofNat_of_mem_facesOf hn bounded hf hv]
  exact lt_vertexCountOf hn hf hv

theorem exists_face_of_ofSpec (generated : ofSpec shape p = .ok m)
    (bounded : divisions p.segments ≤ mostDivisions shape) {v : Nat} (hv : v < m.vertices.length) :
    ∃ f ∈ m.faces, ∃ i ∈ f.indices, i.toNat = v := by
  have hn := one_le_divisions p.segments
  obtain ⟨vertices, faces⟩ := ofSpec_eq_ok generated
  rw [vertices] at hv
  obtain ⟨f, hf, member⟩ := exists_mem_indices hn hv
  rw [faces]
  refine ⟨_, List.mem_map_of_mem hf, UInt32.ofNat v, ?_, ?_⟩
  · rw [Face.indices_map]
    exact List.mem_map_of_mem member
  · exact toNat_ofNat_of_mem_facesOf hn bounded hf member

/-- A mesh passes the check of its indices if the number of its vertices is a word.  With one vertex
    more than the greatest word it has none of them for the check. -/
theorem indicesInRange_iff_of_ofSpec (generated : ofSpec shape p = .ok m)
    (bounded : divisions p.segments ≤ mostDivisions shape) :
    m.indicesInRange = true ↔ m.vertices.length < UInt32.size := by
  constructor
  · intro inRange
    rw [indicesInRange_iff_word] at inRange
    by_contra many
    have count : m.vertices.length = UInt32.size := by
      apply le_antisymm _ (not_lt.mp many)
      rw [(ofSpec_eq_ok generated).1]
      exact vertexCountOf_le shape bounded
    -- The first vertex is a corner, and no word is below the word of this number.
    obtain ⟨f, hf, i, hi, -⟩ := exists_face_of_ofSpec generated bounded
      (count ▸ (by decide : 0 < UInt32.size))
    have below := inRange i (mem_corners_iff.mpr ⟨f, hf, hi⟩)
    rw [count] at below
    exact absurd below UInt32.not_lt_zero
  · intro small
    rw [indicesInRange_iff small]
    intro i member
    obtain ⟨f, hf, hi⟩ := mem_corners_iff.mp member
    exact lt_of_ofSpec generated bounded f hf i hi

theorem cornersDiffer_of_ofSpec (generated : ofSpec shape p = .ok m)
    (bounded : divisions p.segments ≤ mostDivisions shape) : m.cornersDiffer = true ↔
      ¬ ((shape = .cylinder ∨ shape = .cone) ∧ divisions p.segments = 1) := by
  have hn := one_le_divisions p.segments
  obtain ⟨-, faces⟩ := ofSpec_eq_ok generated
  rw [← nodup_facesOf_iff hn]
  simp only [cornersDiffer, faces, List.all_eq_true, List.mem_map, forall_exists_index, and_imp,
    forall_apply_eq_imp_iff₂, Face.indices_map, decide_eq_true_eq]
  refine forall₂_congr fun f hf => ⟨List.Nodup.of_map _, fun distinct => distinct.map_on ?_⟩
  intro v hv w hw same
  have numbers := congrArg UInt32.toNat same
  rwa [toNat_ofNat_of_mem_facesOf hn bounded hf hv, toNat_ofNat_of_mem_facesOf hn bounded hf hw]
    at numbers

/-- No operation on words overflows exactly up to the greatest number of divisions of the shape, and
    then a mesh consists of the vertices and faces of its shape, every index is that of a vertex,
    every vertex is a corner, and only rings of a single point make faces with a corner twice.  The
    check of the indices says so if the number of vertices is a word. -/
theorem generated_mesh_valid (shape : Shape) (p : ShapeSpec) :
    ((faceWords? shape p).isSome ↔ divisions p.segments ≤ mostDivisions shape) ∧
    ∀ m, ofSpec shape p = .ok m → divisions p.segments ≤ mostDivisions shape →
      faceWords? shape p = some m.faces ∧
      m.vertices.length = vertexCountOf shape (divisions p.segments) ∧
      m.quadrilateralCount = quadrilateralCountOf shape (divisions p.segments) ∧
      m.triangleCount = triangleCountOf shape (divisions p.segments) ∧
      (∀ f ∈ m.faces, ∀ i ∈ f.indices, i.toNat < m.vertices.length) ∧
      (m.indicesInRange = true ↔ m.vertices.length < UInt32.size) ∧
      (∀ v < m.vertices.length, ∃ f ∈ m.faces, ∃ i ∈ f.indices, i.toNat = v) ∧
      (m.cornersDiffer = true ↔
        ¬ ((shape = .cylinder ∨ shape = .cone) ∧ divisions p.segments = 1)) := by
  refine ⟨?_, fun m generated bounded => ?_⟩
  · rw [faceWords?_eq]
    split <;> simp_all
  · obtain ⟨vertices, faces⟩ := ofSpec_eq_ok generated
    refine ⟨?_, vertices, ?_, ?_, lt_of_ofSpec generated bounded,
      indicesInRange_iff_of_ofSpec generated bounded,
      fun v => exists_face_of_ofSpec generated bounded, cornersDiffer_of_ofSpec generated bounded⟩
    · rw [faceWords?_eq, if_pos bounded, faces]
    · simp [quadrilateralCount, faces, List.countP_map, Function.comp_def, countP_isQuad_facesOf]
    · simp [triangleCount, faces, List.countP_map, Function.comp_def, countP_not_isQuad_facesOf]

/-- A blob with three divisions, and a cone with none, which counts as one. -/
theorem generated_mesh_valid_blob_and_cone :
    (∃ m, ofSpec .blob { segments := 3 } = .ok m ∧ m.vertices.length = 16 ∧
      m.quadrilateralCount = 9 ∧ m.indicesInRange = true ∧ m.cornersDiffer = true) ∧
    ∃ m, ofSpec .cone { segments := 0 } = .ok m ∧ m.vertices.length = 3 ∧
      m.triangleCount = 2 ∧ m.indicesInRange = true ∧ ¬ m.cornersDiffer = true := by
  constructor
  · obtain ⟨m, generated⟩ := exists_eq_ok (x := ofSpec .blob { segments := 3 }) (by decide +kernel)
    obtain ⟨-, vertices, quadrilaterals, -, -, inRange, -, differ⟩ :=
      (generated_mesh_valid .blob { segments := 3 }).2 m generated (by decide)
    exact ⟨m, generated, vertices, quadrilaterals, inRange.mpr (by rw [vertices]; decide),
      differ.mpr (by decide)⟩
  · obtain ⟨-, vertices, -, triangles, -, inRange, -, differ⟩ :=
      (generated_mesh_valid .cone { segments := 0 }).2 _ rfl (by decide)
    exact ⟨_, rfl, vertices, triangles, inRange.mpr (by rw [vertices]; decide),
      fun h => differ.mp h (by decide)⟩

end LayeredScene.Mesh
