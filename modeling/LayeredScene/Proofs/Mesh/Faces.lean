import LayeredScene.Mesh.OfStatement
import LayeredScene.Proofs.Traversal

/-! # The faces of generated meshes

The faces of a mesh depend on its shape and on the number of divisions alone, and so does the number
of its vertices; `ofSpec_eq_ok` says so once for all generators.  What the faces amount to is then a
matter of numbers: every index is that of a vertex, every vertex is a corner, and only the sides of
a cylinder or a cone with a single division repeat a corner.
-/

namespace LayeredScene

/-! ## Renamed corners -/

namespace Face

variable {ι κ : Type}

@[simp] theorem indices_map (f : ι → κ) (face : Face ι) :
    (face.map f).indices = face.indices.map f := by
  cases face <;> rfl

@[simp] theorem isQuad_map (f : ι → κ) (face : Face ι) : (face.map f).isQuad = face.isQuad := by
  cases face <;> rfl

@[simp] theorem triangles_map (f : ι → κ) (face : Face ι) :
    (face.map f).triangles = face.triangles.map f := by
  cases face <;> rfl

end Face

namespace Mesh

/-! ## What a generator makes -/

/-- The number of vertices of a shape with `n` divisions. -/
def vertexCountOf : Shape → Nat → Nat
  | .cube, _ => 8
  | .pyramid, _ => 5
  | .cylinder, n => 2 + 2 * n
  | .cone, n => 2 + n
  | .sphere, n | .blob, n | .egg, n | .droplet, n => (n + 1) ^ 2

def quadrilateralCountOf : Shape → Nat → Nat
  | .cube, _ => 6
  | .pyramid, _ => 1
  | .cylinder, n => n
  | .cone, _ => 0
  | .sphere, n | .blob, n | .egg, n | .droplet, n => n ^ 2

def triangleCountOf : Shape → Nat → Nat
  | .cube, _ => 0
  | .pyramid, _ => 4
  | .cylinder, n | .cone, n => 2 * n
  | .sphere, _ | .blob, _ | .egg, _ | .droplet, _ => 0

/-- The faces of a shape with `n` divisions, before their indices become words. -/
def facesOf : Shape → Nat → List (Face Nat)
  | .cube, _ => (box (.splat 1)).faces.map (·.map UInt32.toNat)
  | .pyramid, _ => (pyramid (.splat 1)).faces.map (·.map UInt32.toNat)
  | .cylinder, n => cylinderFaces n
  | .cone, n => coneFaces n
  | .sphere, n | .blob, n | .egg, n | .droplet, n => gridFaces n

theorem divisions_eq_max (segments : UInt32) : divisions segments = max segments.toNat 1 := by
  change (if segments ≤ 1 then (1 : UInt32) else segments).toNat = _
  split
  · next few => exact (Nat.max_eq_right (UInt32.le_iff_toNat_le.mp few)).symm
  · next many => exact (Nat.max_eq_left (UInt32.lt_iff_toNat_lt.mp (UInt32.not_le.mp many)).le).symm

theorem one_le_divisions (segments : UInt32) : 1 ≤ divisions segments := by
  rw [divisions_eq_max]
  exact Nat.le_max_right _ _

theorem length_gridVertices (n : Nat) (point : Float32 → Float32 → Triple Float32) :
    (gridVertices n point).length = (n + 1) ^ 2 := by
  simp [gridVertices, List.length_flatMap, Nat.pow_two]

theorem length_scatter (amplitude scale : Float32) (vs : List (Triple Float32)) (k : Keystream)
    (moved : List (Triple Float32)) :
    (scatter amplitude scale vs k moved).length = moved.length + vs.length := by
  induction vs generalizing k moved with
  | nil => simp [scatter]
  | cons v vs ih =>
    simp only [scatter, ih, List.length_cons]
    omega

/-- A blob has the faces of the sphere that it starts from, and as many vertices. -/
theorem blob_eq_ok {size jitter : Float32} {segments : UInt32} {seed : UInt64} {m : Mesh}
    (h : blob size segments jitter seed = .ok m) :
    m.faces = (sphere (size * 0.5) segments).faces ∧
      m.vertices.length = (sphere (size * 0.5) segments).vertices.length := by
  unfold blob at h
  simp only at h
  split at h
  · obtain rfl := Except.ok.inj h
    exact ⟨rfl, rfl⟩
  · obtain ⟨scale, -, h⟩ := bind_eq_ok h
    obtain rfl := Except.ok.inj h
    exact ⟨rfl, by simp [length_scatter]⟩

/-- The numbers of vertices and the faces of a mesh follow from its shape and its divisions. -/
theorem ofSpec_eq_ok {shape : Shape} {p : ShapeSpec} {m : Mesh} (h : ofSpec shape p = .ok m) :
    m.vertices.length = vertexCountOf shape (divisions p.segments) ∧
      m.faces = (facesOf shape (divisions p.segments)).map (·.map UInt32.ofNat) := by
  cases shape with
  | cube =>
    obtain rfl := Except.ok.inj h
    exact ⟨rfl, rfl⟩
  | pyramid =>
    obtain rfl := Except.ok.inj h
    exact ⟨rfl, rfl⟩
  | cylinder =>
    obtain rfl := Except.ok.inj h
    refine ⟨?_, rfl⟩
    simp only [cylinder, vertexCountOf, List.length_cons, List.length_flatMap, List.length_nil,
      List.map_const', List.length_range, List.sum_replicate, smul_eq_mul]
    omega
  | cone =>
    obtain rfl := Except.ok.inj h
    refine ⟨?_, rfl⟩
    simp only [cone, vertexCountOf, List.length_cons, List.length_map, List.length_range]
    omega
  | sphere | egg | droplet =>
    obtain rfl := Except.ok.inj h
    exact ⟨length_gridVertices _ _, rfl⟩
  | blob =>
    obtain ⟨faces, vertices⟩ := blob_eq_ok h
    exact ⟨vertices.trans (length_gridVertices _ _), faces⟩

/-! ## Faces one by one -/

variable {n v : Nat} {f : Face Nat} {shape : Shape}

theorem mem_cylinderFaces : f ∈ cylinderFaces n ↔ ∃ i < n,
    f = .tri 0 (lowerIndex n i) (lowerIndex n (i + 1)) ∨
    f = .tri 1 (upperIndex n (i + 1)) (upperIndex n i) ∨
    f = .quad (lowerIndex n i) (upperIndex n i) (upperIndex n (i + 1)) (lowerIndex n (i + 1)) := by
  simp only [cylinderFaces, List.mem_append, List.mem_map, List.mem_range]
  grind

theorem mem_coneFaces : f ∈ coneFaces n ↔ ∃ i < n,
    f = .tri 0 (rimIndex n i) (rimIndex n (i + 1)) ∨
    f = .tri 1 (rimIndex n (i + 1)) (rimIndex n i) := by
  simp only [coneFaces, List.mem_append, List.mem_map, List.mem_range]
  grind

theorem mem_gridFaces : f ∈ gridFaces n ↔ ∃ row < n, ∃ column < n,
    f = .quad (gridIndex n row column) (gridIndex n row (column + 1))
      (gridIndex n (row + 1) (column + 1)) (gridIndex n (row + 1) column) := by
  simp only [gridFaces, List.mem_flatMap, List.mem_map, List.mem_range]
  grind

/-! ## Rings -/

/-- The next point of a ring follows, or it is the first. -/
theorem succ_mod_cases {i : Nat} (hi : i < n) :
    (i + 1) % n = i + 1 ∧ i + 1 < n ∨ (i + 1) % n = 0 ∧ i + 1 = n := by
  rcases Nat.lt_or_eq_of_le (Nat.succ_le_of_lt hi) with inside | last
  · exact Or.inl ⟨Nat.mod_eq_of_lt inside, inside⟩
  · exact Or.inr ⟨(congrArg (· % n) last).trans (Nat.mod_self n), last⟩

theorem lowerIndex_of_lt {i : Nat} (hi : i < n) : lowerIndex n i = 2 + 2 * i := by
  rw [lowerIndex, Nat.mod_eq_of_lt hi]

theorem upperIndex_of_lt {i : Nat} (hi : i < n) : upperIndex n i = 3 + 2 * i := by
  rw [upperIndex, Nat.mod_eq_of_lt hi]

theorem rimIndex_of_lt {i : Nat} (hi : i < n) : rimIndex n i = 2 + i := by
  rw [rimIndex, Nat.mod_eq_of_lt hi]

theorem lowerIndex_lt (hn : 1 ≤ n) (i : Nat) : lowerIndex n i < 2 + 2 * n := by
  have := Nat.mod_lt i hn
  simp only [lowerIndex]
  omega

theorem upperIndex_lt (hn : 1 ≤ n) (i : Nat) : upperIndex n i < 2 + 2 * n := by
  have := Nat.mod_lt i hn
  simp only [upperIndex]
  omega

theorem rimIndex_lt (hn : 1 ≤ n) (i : Nat) : rimIndex n i < 2 + n := by
  have := Nat.mod_lt i hn
  simp only [rimIndex]
  omega

/-! ## The grid -/

theorem gridIndex_lt {row column : Nat} (hr : row ≤ n) (hc : column ≤ n) :
    gridIndex n row column < (n + 1) ^ 2 := by
  have := Nat.mul_le_mul_right (n + 1) hr
  simp only [gridIndex, Nat.pow_two, Nat.succ_mul n (n + 1)]
  omega

theorem gridIndex_div {row column : Nat} (hc : column ≤ n) :
    gridIndex n row column / (n + 1) = row := by
  rw [gridIndex, Nat.mul_comm, Nat.mul_add_div (Nat.succ_pos n),
    Nat.div_eq_of_lt (Nat.lt_succ_of_le hc), Nat.add_zero]

theorem gridIndex_mod {row column : Nat} (hc : column ≤ n) :
    gridIndex n row column % (n + 1) = column := by
  rw [gridIndex, Nat.mul_comm, Nat.mul_add_mod, Nat.mod_eq_of_lt (Nat.lt_succ_of_le hc)]

theorem gridIndex_inj {row column row' column' : Nat} (hc : column ≤ n) (hc' : column' ≤ n) :
    gridIndex n row column = gridIndex n row' column' ↔ row = row' ∧ column = column' := by
  constructor
  · intro same
    have rows := congrArg (· / (n + 1)) same
    have columns := congrArg (· % (n + 1)) same
    rw [gridIndex_div hc, gridIndex_div hc'] at rows
    rw [gridIndex_mod hc, gridIndex_mod hc'] at columns
    exact ⟨rows, columns⟩
  · rintro ⟨rfl, rfl⟩
    rfl

/-- Every vertex of a grid has a row and a column. -/
theorem exists_gridIndex (hv : v < (n + 1) ^ 2) :
    ∃ row ≤ n, ∃ column ≤ n, v = gridIndex n row column := by
  rw [Nat.pow_two] at hv
  refine ⟨v / (n + 1), Nat.lt_succ_iff.mp (Nat.div_lt_of_lt_mul hv), v % (n + 1),
    Nat.lt_succ_iff.mp (Nat.mod_lt v (Nat.succ_pos n)), ?_⟩
  rw [gridIndex, Nat.mul_comm, Nat.div_add_mod]

/-! ## Indices and vertices -/

/-- Every index is that of a vertex. -/
theorem lt_vertexCountOf (hn : 1 ≤ n) (hf : f ∈ facesOf shape n) (hv : v ∈ f.indices) :
    v < vertexCountOf shape n := by
  cases shape with
  | cube =>
    have all : ∀ f ∈ facesOf .cube 0, ∀ v ∈ f.indices, v < 8 := by decide
    exact all f hf v hv
  | pyramid =>
    have all : ∀ f ∈ facesOf .pyramid 0, ∀ v ∈ f.indices, v < 5 := by decide
    exact all f hf v hv
  | cylinder =>
    have lower := lowerIndex_lt hn
    have upper := upperIndex_lt hn
    obtain ⟨i, -, rfl | rfl | rfl⟩ := mem_cylinderFaces.mp hf <;>
      simp only [Face.indices, List.mem_cons, List.not_mem_nil, or_false, vertexCountOf] at hv ⊢ <;>
      grind
  | cone =>
    have rim := rimIndex_lt hn
    obtain ⟨i, -, rfl | rfl⟩ := mem_coneFaces.mp hf <;>
      simp only [Face.indices, List.mem_cons, List.not_mem_nil, or_false, vertexCountOf] at hv ⊢ <;>
      grind
  | sphere | blob | egg | droplet =>
    obtain ⟨row, hr, column, hc, rfl⟩ := mem_gridFaces.mp hf
    simp only [Face.indices, List.mem_cons, List.not_mem_nil, or_false] at hv
    rcases hv with rfl | rfl | rfl | rfl <;> exact gridIndex_lt (by omega) (by omega)

/-- Every vertex is a corner of a face. -/
theorem exists_mem_indices (hn : 1 ≤ n) (hv : v < vertexCountOf shape n) :
    ∃ f ∈ facesOf shape n, v ∈ f.indices := by
  cases shape with
  | cube =>
    have all : ∀ v < 8, ∃ f ∈ facesOf .cube 0, v ∈ f.indices := by decide
    exact all v hv
  | pyramid =>
    have all : ∀ v < 5, ∃ f ∈ facesOf .pyramid 0, v ∈ f.indices := by decide
    exact all v hv
  | cylinder =>
    simp only [vertexCountOf] at hv
    obtain rfl | rfl | ⟨i, hi, rfl | rfl⟩ :
        v = 0 ∨ v = 1 ∨ ∃ i < n, v = 2 + 2 * i ∨ v = 3 + 2 * i := by
      rcases Nat.lt_or_ge v 2 with center | rim
      · omega
      · exact Or.inr (Or.inr ⟨(v - 2) / 2, by omega, by omega⟩)
    · exact ⟨_, mem_cylinderFaces.mpr ⟨0, hn, .inl rfl⟩, by simp [Face.indices]⟩
    · exact ⟨_, mem_cylinderFaces.mpr ⟨0, hn, .inr (.inl rfl)⟩, by simp [Face.indices]⟩
    · exact ⟨_, mem_cylinderFaces.mpr ⟨i, hi, .inl rfl⟩,
        by simp [Face.indices, lowerIndex_of_lt hi]⟩
    · exact ⟨_, mem_cylinderFaces.mpr ⟨i, hi, .inr (.inl rfl)⟩,
        by simp [Face.indices, upperIndex_of_lt hi]⟩
  | cone =>
    simp only [vertexCountOf] at hv
    obtain rfl | rfl | ⟨i, hi, rfl⟩ : v = 0 ∨ v = 1 ∨ ∃ i < n, v = 2 + i := by
      rcases Nat.lt_or_ge v 2 with center | rim
      · omega
      · exact Or.inr (Or.inr ⟨v - 2, by omega, by omega⟩)
    · exact ⟨_, mem_coneFaces.mpr ⟨0, hn, .inl rfl⟩, by simp [Face.indices]⟩
    · exact ⟨_, mem_coneFaces.mpr ⟨0, hn, .inr rfl⟩, by simp [Face.indices]⟩
    · exact ⟨_, mem_coneFaces.mpr ⟨i, hi, .inl rfl⟩, by simp [Face.indices, rimIndex_of_lt hi]⟩
  | sphere | blob | egg | droplet =>
    obtain ⟨row, hr, column, hc, rfl⟩ := exists_gridIndex hv
    -- The last row and the last column belong to the cells before them.
    obtain ⟨r, hr', rfl | rfl⟩ : ∃ r < n, row = r ∨ row = r + 1 :=
      ⟨min row (n - 1), by omega, by omega⟩ <;>
    obtain ⟨c, hc', rfl | rfl⟩ : ∃ c < n, column = c ∨ column = c + 1 :=
      ⟨min column (n - 1), by omega, by omega⟩ <;>
    exact ⟨_, mem_gridFaces.mpr ⟨_, hr', _, hc', rfl⟩, by simp [Face.indices]⟩

theorem vertexCountOf_pos (shape : Shape) (n : Nat) : 0 < vertexCountOf shape n := by
  cases shape with
  | cube => exact Nat.succ_pos 7
  | pyramid => exact Nat.succ_pos 4
  | cylinder => exact Nat.add_pos_left (by decide) _
  | cone => exact Nat.add_pos_left (by decide) _
  | sphere | blob | egg | droplet => exact Nat.pow_pos n.succ_pos

/-- No mesh is without vertices, and none is without corners. -/
theorem ne_nil_of_ofSpec {p : ShapeSpec} {m : Mesh} (generated : ofSpec shape p = .ok m) :
    m.vertices ≠ [] ∧ m.corners ≠ [] := by
  obtain ⟨vertices, faces⟩ := ofSpec_eq_ok generated
  have some := vertexCountOf_pos shape (divisions p.segments)
  constructor
  · rw [← List.length_pos_iff, vertices]
    exact some
  · -- The first vertex belongs to a face, and every face has a corner.
    obtain ⟨f, hf, -⟩ := exists_mem_indices (one_le_divisions p.segments) some
    have listed : f.map UInt32.ofNat ∈ m.faces := faces ▸ List.mem_map_of_mem hf
    obtain ⟨corner, hcorner⟩ : ∃ corner, corner ∈ (f.map UInt32.ofNat).triangles := by
      cases f with
      | tri a b c => exact ⟨_, List.mem_cons_self⟩
      | quad a b c d => exact ⟨_, List.mem_cons_self⟩
    exact List.ne_nil_of_mem (List.mem_flatMap.mpr ⟨_, listed, hcorner⟩)

/-! ## Repeated corners -/

theorem nodup_cylinderFaces_iff (hn : 1 ≤ n) :
    (∀ f ∈ cylinderFaces n, f.indices.Nodup) ↔ n ≠ 1 := by
  constructor
  · rintro distinct rfl
    exact absurd distinct (by decide)
  · intro several f hf
    obtain ⟨i, hi, faces⟩ := mem_cylinderFaces.mp hf
    have next := succ_mod_cases hi
    rcases faces with rfl | rfl | rfl <;>
      simp only [Face.indices, lowerIndex, upperIndex, Nat.mod_eq_of_lt hi, List.nodup_cons,
        List.mem_cons, List.not_mem_nil, or_false, not_false_eq_true, List.nodup_nil, and_true] <;>
      omega

theorem nodup_coneFaces_iff (hn : 1 ≤ n) :
    (∀ f ∈ coneFaces n, f.indices.Nodup) ↔ n ≠ 1 := by
  constructor
  · rintro distinct rfl
    exact absurd distinct (by decide)
  · intro several f hf
    obtain ⟨i, hi, faces⟩ := mem_coneFaces.mp hf
    have next := succ_mod_cases hi
    rcases faces with rfl | rfl <;>
      simp only [Face.indices, rimIndex, Nat.mod_eq_of_lt hi, List.nodup_cons,
        List.mem_cons, List.not_mem_nil, or_false, not_false_eq_true, List.nodup_nil, and_true] <;>
      omega

theorem nodup_of_mem_gridFaces (hf : f ∈ gridFaces n) : f.indices.Nodup := by
  obtain ⟨row, -, column, hc, rfl⟩ := mem_gridFaces.mp hf
  have inj := @gridIndex_inj n
  simp only [Face.indices, List.nodup_cons, List.mem_cons, List.not_mem_nil, or_false,
    not_false_eq_true, List.nodup_nil, and_true, not_or]
  grind

/-- Only a ring of a single point makes faces that repeat a corner. -/
theorem nodup_facesOf_iff (hn : 1 ≤ n) : (∀ f ∈ facesOf shape n, f.indices.Nodup) ↔
    ¬ ((shape = .cylinder ∨ shape = .cone) ∧ n = 1) := by
  cases shape with
  | cube =>
    have all : ∀ f ∈ facesOf .cube 0, f.indices.Nodup := by decide
    exact iff_of_true all (by simp)
  | pyramid =>
    have all : ∀ f ∈ facesOf .pyramid 0, f.indices.Nodup := by decide
    exact iff_of_true all (by simp)
  | cylinder => simpa [facesOf] using nodup_cylinderFaces_iff hn
  | cone => simpa [facesOf] using nodup_coneFaces_iff hn
  | sphere | blob | egg | droplet =>
    exact iff_of_true (fun f hf => nodup_of_mem_gridFaces hf) (by simp)

/-! ## Numbers of faces -/

theorem countP_isQuad_facesOf (shape : Shape) (n : Nat) :
    (facesOf shape n).countP (·.isQuad) = quadrilateralCountOf shape n := by
  cases shape <;>
    simp [facesOf, quadrilateralCountOf, cylinderFaces, coneFaces, gridFaces, box, pyramid,
      List.countP_flatMap, List.countP_map, Function.comp_def, Face.isQuad, Nat.pow_two, Face.map]

theorem countP_not_isQuad_facesOf (shape : Shape) (n : Nat) :
    (facesOf shape n).countP (! ·.isQuad) = triangleCountOf shape n := by
  cases shape <;>
    simp [facesOf, triangleCountOf, cylinderFaces, coneFaces, gridFaces, box, pyramid,
      List.countP_flatMap, List.countP_map, Function.comp_def, Face.isQuad, Face.map, Nat.two_mul]

end Mesh

end LayeredScene
