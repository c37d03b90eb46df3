import LayeredScene.Proofs.Mesh.Edges

/-! # Surfaces without holes

The triangles of a cylinder or a cone with three divisions or more close up: every directed edge
occurs once, and so does its reverse.  Those of a grid do so but for the edges along its border,
whose reverses are missing.

Both are shown piece by piece.  A ring body consists of sectors, one for each point of its rim, and
a grid of cells; an edge tells the piece that it is from, so that no edge occurs twice, and its
reverse is in the same piece or in a neighbour.
-/

namespace LayeredScene.Mesh

variable {n : Nat}

/-- Joined lists without repetitions in them and between them. -/
theorem nodup_flatMap_range {α : Type} {piece : Nat → List α}
    (each : ∀ i < n, (piece i).Nodup)
    (apart : ∀ i < n, ∀ j < n, ∀ e ∈ piece i, e ∈ piece j → i = j) :
    ((List.range n).flatMap piece).Nodup := by
  refine List.nodup_flatMap.mpr ⟨fun i hi => each i (List.mem_range.mp hi), ?_⟩
  exact List.nodup_range.imp_of_mem fun hi hj different e he he' =>
    different (apart _ (List.mem_range.mp hi) _ (List.mem_range.mp hj) e he he')

/-! ## Ring bodies -/

theorem closedSurface_of_sectors {corners : List Nat} {sector : Nat → List (Nat × Nat)}
    (edges : (directedEdges corners).Perm ((List.range n).flatMap sector))
    (each : ∀ i < n, (sector i).Nodup)
    (apart : ∀ i < n, ∀ j < n, ∀ e ∈ sector i, e ∈ sector j → i = j)
    (swap : ∀ i < n, ∀ e ∈ sector i, ∃ j < n, e.swap ∈ sector j) : ClosedSurface corners := by
  have member (e : Nat × Nat) : e ∈ directedEdges corners ↔ ∃ i < n, e ∈ sector i := by
    simp only [edges.mem_iff, List.mem_flatMap, List.mem_range]
  rw [closedSurface_iff]
  refine borderedSurface_of_nodup (edges.nodup_iff.mpr (nodup_flatMap_range each apart)) ?_
  intro e he
  obtain ⟨i, hi, inside⟩ := (member e).mp he
  exact iff_of_true ((member e.swap).mpr (swap i hi e inside)) not_false

theorem exists_pred {i : Nat} (hi : i < n) : ∃ j < n, (j + 1) % n = i := by
  cases i with
  | zero => exact ⟨n - 1, by omega, by rw [Nat.sub_add_cancel hi, Nat.mod_self]⟩
  | succ j => exact ⟨j, Nat.lt_of_succ_lt hi, Nat.mod_eq_of_lt hi⟩

@[simp] theorem lowerIndex_mod (n i : Nat) : lowerIndex n (i % n) = lowerIndex n i := by
  simp [lowerIndex]

@[simp] theorem upperIndex_mod (n i : Nat) : upperIndex n (i % n) = upperIndex n i := by
  simp [upperIndex]

@[simp] theorem rimIndex_mod (n i : Nat) : rimIndex n (i % n) = rimIndex n i := by
  simp [rimIndex]

/-! ### Cylinders -/

/-- The edges of the faces between a point of the rims and the next one. -/
def cylinderSector (n i : Nat) : List (Nat × Nat) :=
  directedEdges [0, lowerIndex n i, lowerIndex n (i + 1)] ++
  directedEdges [1, upperIndex n (i + 1), upperIndex n i] ++
  directedEdges (Face.quad (lowerIndex n i) (upperIndex n i) (upperIndex n (i + 1))
    (lowerIndex n (i + 1))).triangles

theorem perm_cylinder_edges (n : Nat) :
    (directedEdges ((cylinderFaces n).flatMap (·.triangles))).Perm
      ((List.range n).flatMap (cylinderSector n)) := by
  rw [directedEdges_flatMap_triangles, cylinderFaces, List.flatMap_append, List.flatMap_append,
    List.flatMap_map, List.flatMap_map, List.flatMap_map]
  exact ((List.flatMap_append_perm _ _ _).append_right _).trans (List.flatMap_append_perm _ _ _)

theorem mem_cylinderSector {i : Nat} {e : Nat × Nat} : e ∈ cylinderSector n i ↔
    e = (0, lowerIndex n i) ∨ e = (lowerIndex n i, lowerIndex n (i + 1)) ∨
    e = (lowerIndex n (i + 1), 0) ∨
    e = (1, upperIndex n (i + 1)) ∨ e = (upperIndex n (i + 1), upperIndex n i) ∨
    e = (upperIndex n i, 1) ∨
    e = (lowerIndex n i, upperIndex n i) ∨ e = (upperIndex n i, upperIndex n (i + 1)) ∨
    e = (upperIndex n (i + 1), lowerIndex n i) ∨
    e = (lowerIndex n i, upperIndex n (i + 1)) ∨
    e = (upperIndex n (i + 1), lowerIndex n (i + 1)) ∨
    e = (lowerIndex n (i + 1), lowerIndex n i) := by
  simp [cylinderSector, directedEdges, Face.triangles]

theorem nodup_cylinderSector (hn : 3 ≤ n) {i : Nat} (hi : i < n) : (cylinderSector n i).Nodup := by
  have next := succ_mod_cases hi
  simp only [cylinderSector, directedEdges, Face.triangles, List.cons_append, List.nil_append,
    List.nodup_cons, List.mem_cons, Prod.mk.injEq, List.not_mem_nil, or_false, not_false_eq_true,
    List.nodup_nil, and_true, lowerIndex, upperIndex, Nat.mod_eq_of_lt hi]
  omega

/-- An edge of a cylinder is from one sector only. -/
theorem cylinderSector_apart (hn : 3 ≤ n) {i j : Nat} (hi : i < n) (hj : j < n) {e : Nat × Nat}
    (he : e ∈ cylinderSector n i) (he' : e ∈ cylinderSector n j) : i = j := by
  have next := succ_mod_cases hi
  have next' := succ_mod_cases hj
  obtain ⟨u, v⟩ := e
  simp only [mem_cylinderSector, Prod.mk.injEq, lowerIndex, upperIndex, Nat.mod_eq_of_lt hi,
    Nat.mod_eq_of_lt hj] at he he'
  omega

theorem exists_swap_mem_cylinderSector {i : Nat} (hi : i < n) {e : Nat × Nat}
    (he : e ∈ cylinderSector n i) : ∃ j < n, e.swap ∈ cylinderSector n j := by
  have next : (i + 1) % n < n := Nat.mod_lt _ (Nat.zero_lt_of_lt hi)
  obtain ⟨j, hj, before⟩ := exists_pred hi
  have lower : lowerIndex n (j + 1) = lowerIndex n i := by rw [← lowerIndex_mod, before]
  have upper : upperIndex n (j + 1) = upperIndex n i := by rw [← upperIndex_mod, before]
  simp only [mem_cylinderSector] at he ⊢
  rcases he with rfl | rfl | rfl | rfl | rfl | rfl | rfl | rfl | rfl | rfl | rfl | rfl
  -- The base: spokes meet the sectors on both sides, the rim meets the side of this one.
  · exact ⟨j, hj, by simp [lower]⟩
  · exact ⟨i, hi, by simp⟩
  · exact ⟨_, next, by simp⟩
  -- The top.
  · exact ⟨_, next, by simp⟩
  · exact ⟨i, hi, by simp⟩
  · exact ⟨j, hj, by simp [upper]⟩
  -- The side: the uprights meet the sectors on both sides, the diagonal meets itself.
  · exact ⟨j, hj, by simp [lower, upper]⟩
  · exact ⟨i, hi, by simp⟩
  · exact ⟨i, hi, by simp⟩
  · exact ⟨i, hi, by simp⟩
  · exact ⟨_, next, by simp⟩
  · exact ⟨i, hi, by simp⟩

theorem closedSurface_cylinder (hn : 3 ≤ n) :
    ClosedSurface ((cylinderFaces n).flatMap (·.triangles)) :=
  closedSurface_of_sectors (perm_cylinder_edges n) (fun _ hi => nodup_cylinderSector hn hi)
    (fun _ hi _ hj _ he he' => cylinderSector_apart hn hi hj he he')
    fun _ hi _ he => exists_swap_mem_cylinderSector hi he

/-! ### Cones -/

/-- The edges of the faces between a point of the rim and the next one. -/
def coneSector (n i : Nat) : List (Nat × Nat) :=
  directedEdges [0, rimIndex n i, rimIndex n (i + 1)] ++
  directedEdges [1, rimIndex n (i + 1), rimIndex n i]

theorem perm_cone_edges (n : Nat) :
    (directedEdges ((coneFaces n).flatMap (·.triangles))).Perm
      ((List.range n).flatMap (coneSector n)) := by
  rw [directedEdges_flatMap_triangles, coneFaces, List.flatMap_append, List.flatMap_map,
    List.flatMap_map]
  exact List.flatMap_append_perm _ _ _

theorem mem_coneSector {i : Nat} {e : Nat × Nat} : e ∈ coneSector n i ↔
    e = (0, rimIndex n i) ∨ e = (rimIndex n i, rimIndex n (i + 1)) ∨ e = (rimIndex n (i + 1), 0) ∨
    e = (1, rimIndex n (i + 1)) ∨ e = (rimIndex n (i + 1), rimIndex n i) ∨
    e = (rimIndex n i, 1) := by
  simp [coneSector, directedEdges]

theorem nodup_coneSector (hn : 3 ≤ n) {i : Nat} (hi : i < n) : (coneSector n i).Nodup := by
  have next := succ_mod_cases hi
  simp only [coneSector, directedEdges, List.cons_append, List.nil_append, List.nodup_cons,
    List.mem_cons, Prod.mk.injEq, List.not_mem_nil, or_false, not_false_eq_true, List.nodup_nil,
    and_true, rimIndex, Nat.mod_eq_of_lt hi]
  omega

theorem coneSector_apart (hn : 3 ≤ n) {i j : Nat} (hi : i < n) (hj : j < n) {e : Nat × Nat}
    (he : e ∈ coneSector n i) (he' : e ∈ coneSector n j) : i = j := by
  have next := succ_mod_cases hi
  have next' := succ_mod_cases hj
  obtain ⟨u, v⟩ := e
  simp only [mem_coneSector, Prod.mk.injEq, rimIndex, Nat.mod_eq_of_lt hi, Nat.mod_eq_of_lt hj]
    at he he'
  omega

theorem exists_swap_mem_coneSector {i : Nat} (hi : i < n) {e : Nat × Nat}
    (he : e ∈ coneSector n i) : ∃ j < n, e.swap ∈ coneSector n j := by
  have next : (i + 1) % n < n := Nat.mod_lt _ (Nat.zero_lt_of_lt hi)
  obtain ⟨j, hj, before⟩ := exists_pred hi
  have rim : rimIndex n (j + 1) = rimIndex n i := by rw [← rimIndex_mod, before]
  simp only [mem_coneSector] at he ⊢
  rcases he with rfl | rfl | rfl | rfl | rfl | rfl
  -- The spokes meet the sectors on both sides, and along the rim the base meets the side.
  · exact ⟨j, hj, by simp [rim]⟩
  · exact ⟨i, hi, by simp⟩
  · exact ⟨_, next, by simp⟩
  · exact ⟨_, next, by simp⟩
  · exact ⟨i, hi, by simp⟩
  · exact ⟨j, hj, by simp [rim]⟩

theorem closedSurface_cone (hn : 3 ≤ n) :
    ClosedSurface ((coneFaces n).flatMap (·.triangles)) :=
  closedSurface_of_sectors (perm_cone_edges n) (fun _ hi => nodup_coneSector hn hi)
    (fun _ hi _ hj _ he he' => coneSector_apart hn hi hj he he')
    fun _ hi _ he => exists_swap_mem_coneSector hi he

/-! ## Grids -/

/-- A point of a grid by its row and its column. -/
structure GridPoint where
  row : Nat
  column : Nat
deriving DecidableEq

/-- Where the vertex with a given index stands in a grid with `n` divisions. -/
def gridPoint (n v : Nat) : GridPoint := ⟨v / (n + 1), v % (n + 1)⟩

/-- Both points are on the first or on the last row, or column, and next to each other. -/
def GridPoint.OnBorder (n : Nat) (e : GridPoint × GridPoint) : Prop :=
  (e.1.row = e.2.row ∧ (e.1.row = 0 ∨ e.1.row = n) ∧
    (e.1.column + 1 = e.2.column ∨ e.2.column + 1 = e.1.column)) ∨
  (e.1.column = e.2.column ∧ (e.1.column = 0 ∨ e.1.column = n) ∧
    (e.1.row + 1 = e.2.row ∨ e.2.row + 1 = e.1.row))

theorem gridPoint_injective (n : Nat) : (gridPoint n).Injective := by
  intro u v same
  obtain ⟨rows, columns⟩ := GridPoint.mk.inj same
  rw [← Nat.div_add_mod u (n + 1), rows, columns, Nat.div_add_mod]

theorem gridPoint_gridIndex {row column : Nat} (hc : column ≤ n) :
    gridPoint n (gridIndex n row column) = ⟨row, column⟩ := by
  rw [gridPoint, gridIndex_div hc, gridIndex_mod hc]

/-- The cell between two rows and two columns. -/
def cell (row column : Nat) : Face GridPoint :=
  .quad ⟨row, column⟩ ⟨row, column + 1⟩ ⟨row + 1, column + 1⟩ ⟨row + 1, column⟩

theorem map_gridPoint_corners (n : Nat) :
    ((gridFaces n).flatMap (·.triangles)).map (gridPoint n) =
      ((List.range n).flatMap fun row => (List.range n).map (cell row)).flatMap (·.triangles) := by
  simp only [gridFaces, List.flatMap_assoc, List.flatMap_map, List.map_flatMap]
  refine List.flatMap_congr fun row _ => List.flatMap_congr fun column hc => ?_
  have inside : column + 1 ≤ n := List.mem_range.mp hc
  rw [← Face.triangles_map, Face.map, gridPoint_gridIndex inside, gridPoint_gridIndex inside,
    gridPoint_gridIndex (Nat.le_of_succ_le inside), gridPoint_gridIndex (Nat.le_of_succ_le inside),
    cell]

def cellEdges (row column : Nat) : List (GridPoint × GridPoint) :=
  directedEdges (cell row column).triangles

def gridEdges (n : Nat) : List (GridPoint × GridPoint) :=
  (List.range n).flatMap fun row => (List.range n).flatMap fun column => cellEdges row column

theorem directedEdges_gridCells (n : Nat) :
    directedEdges (((List.range n).flatMap fun row => (List.range n).map (cell row)).flatMap
      (·.triangles)) = gridEdges n := by
  rw [directedEdges_flatMap_triangles]
  simp only [List.flatMap_assoc, List.flatMap_map, gridEdges, cellEdges]

theorem mem_cellEdges {row column : Nat} {e : GridPoint × GridPoint} : e ∈ cellEdges row column ↔
    e = (⟨row, column⟩, ⟨row, column + 1⟩) ∨ e = (⟨row, column + 1⟩, ⟨row + 1, column + 1⟩) ∨
    e = (⟨row + 1, column + 1⟩, ⟨row, column⟩) ∨ e = (⟨row, column⟩, ⟨row + 1, column + 1⟩) ∨
    e = (⟨row + 1, column + 1⟩, ⟨row + 1, column⟩) ∨ e = (⟨row + 1, column⟩, ⟨row, column⟩) := by
  simp [cellEdges, cell, directedEdges, Face.triangles]

theorem mem_gridEdges {e : GridPoint × GridPoint} :
    e ∈ gridEdges n ↔ ∃ row < n, ∃ column < n, e ∈ cellEdges row column := by
  simp only [gridEdges, List.mem_flatMap, List.mem_range]

/-- An edge of a grid is from one cell only. -/
theorem cellEdges_apart {row column row' column' : Nat} {e : GridPoint × GridPoint}
    (he : e ∈ cellEdges row column) (he' : e ∈ cellEdges row' column') :
    row = row' ∧ column = column' := by
  obtain ⟨⟨r, c⟩, r', c'⟩ := e
  simp only [mem_cellEdges, Prod.mk.injEq, GridPoint.mk.injEq] at he he'
  omega

theorem nodup_gridEdges (n : Nat) : (gridEdges n).Nodup := by
  refine nodup_flatMap_range (fun row _ => nodup_flatMap_range (fun column _ => ?_) ?_) ?_
  · simp [cellEdges, cell, directedEdges, Face.triangles]
  · exact fun _ _ _ _ e he he' => (cellEdges_apart he he').2
  · intro row _ row' _ e he he'
    obtain ⟨column, -, he⟩ := List.mem_flatMap.mp he
    obtain ⟨column', -, he'⟩ := List.mem_flatMap.mp he'
    exact (cellEdges_apart he he').1

theorem swap_mem_gridEdges_iff {e : GridPoint × GridPoint} (he : e ∈ gridEdges n) :
    e.swap ∈ gridEdges n ↔ ¬ GridPoint.OnBorder n e := by
  obtain ⟨row, hr, column, hc, he⟩ := mem_gridEdges.mp he
  constructor
  · intro back
    obtain ⟨row', hr', column', hc', he'⟩ := mem_gridEdges.mp back
    obtain ⟨⟨r, c⟩, r', c'⟩ := e
    simp only [mem_cellEdges, Prod.swap_prod_mk, Prod.mk.injEq, GridPoint.mk.injEq,
      GridPoint.OnBorder] at he he' ⊢
    omega
  · intro inner
    rw [mem_gridEdges]
    simp only [mem_cellEdges] at he ⊢
    -- The reverse of an outer edge of a cell is in the cell on the other side of it.
    rcases he with rfl | rfl | rfl | rfl | rfl | rfl
    · have above : row ≠ 0 := fun first => inner (.inl ⟨rfl, .inl first, .inl rfl⟩)
      have upper : row - 1 + 1 = row := by omega
      exact ⟨row - 1, by omega, column, hc, by simp [upper]⟩
    · have right : column + 1 ≠ n := fun last => inner (.inr ⟨rfl, .inr last, .inl rfl⟩)
      exact ⟨row, hr, column + 1, by omega, by simp⟩
    · exact ⟨row, hr, column, hc, by simp⟩
    · exact ⟨row, hr, column, hc, by simp⟩
    · have below : row + 1 ≠ n := fun last => inner (.inl ⟨rfl, .inr last, .inr rfl⟩)
      exact ⟨row + 1, by omega, column, hc, by simp⟩
    · have left : column ≠ 0 := fun first => inner (.inr ⟨rfl, .inl first, .inr rfl⟩)
      have previous : column - 1 + 1 = column := by omega
      exact ⟨row, hr, column - 1, by omega, by simp [previous]⟩

theorem borderedSurface_grid (n : Nat) :
    BorderedSurface (fun e => GridPoint.OnBorder n (e.map (gridPoint n) (gridPoint n)))
      ((gridFaces n).flatMap (·.triangles)) := by
  refine BorderedSurface.of_map (gridPoint_injective n) ?_
  rw [map_gridPoint_corners]
  refine borderedSurface_of_nodup ?_ ?_ <;> rw [directedEdges_gridCells]
  · exact nodup_gridEdges n
  · exact fun e he => swap_mem_gridEdges_iff he

/-! ## Meshes -/

/-- The border of a grid whose vertices are numbered by words. -/
def OnGridBorder (n : Nat) (e : UInt32 × UInt32) : Prop :=
  GridPoint.OnBorder n (gridPoint n e.1.toNat, gridPoint n e.2.toNat)

instance (n : Nat) (e : UInt32 × UInt32) : Decidable (OnGridBorder n e) :=
  inferInstanceAs (Decidable (_ ∨ _))

variable {shape : Shape} {m : Mesh}

theorem closedSurface_corners (hn : 1 ≤ n) (bounded : n ≤ mostDivisions shape)
    (faces : m.faces = (facesOf shape n).map (·.map UInt32.ofNat))
    (closed : ClosedSurface ((facesOf shape n).flatMap (·.triangles))) :
    ClosedSurface m.corners := by
  rw [closedSurface_iff, ← toNat_corners hn bounded faces] at closed
  exact closedSurface_iff.mpr (closed.of_map fun _ _ => UInt32.toNat.inj)

theorem borderedSurface_corners (hn : 1 ≤ n) (bounded : n ≤ mostDivisions .sphere)
    (faces : m.faces = (gridFaces n).map (·.map UInt32.ofNat)) :
    BorderedSurface (OnGridBorder n) m.corners := by
  have onGrid := borderedSurface_grid n
  change BorderedSurface _ ((facesOf .sphere n).flatMap (·.triangles)) at onGrid
  rw [← toNat_corners hn bounded faces] at onGrid
  exact onGrid.of_map fun _ _ => UInt32.toNat.inj

/-- Up to the greatest number of divisions of the shape: a cylinder or a cone with at least three of
    them is a closed surface whose triangles all wind the same way, and so is a round body of any
    number of them but for the border of its grid. -/
theorem edges_paired (segments : UInt32) :
    (3 ≤ divisions segments →
      (divisions segments ≤ mostDivisions .cylinder →
        ∀ height radius, ClosedSurface (cylinder height radius segments).corners) ∧
      (divisions segments ≤ mostDivisions .cone →
        ∀ height radius, ClosedSurface (cone height radius segments).corners)) ∧
    (divisions segments ≤ mostDivisions .sphere → ∀ m,
      ((∃ radius, m = sphere radius segments ∨ m = egg radius segments ∨
          m = droplet radius segments) ∨
        ∃ size jitter seed, blob size segments jitter seed = .ok m) →
      BorderedSurface (OnGridBorder (divisions segments)) m.corners) := by
  have hn := one_le_divisions segments
  refine ⟨fun many => ⟨fun bounded height radius => ?_, fun bounded height radius => ?_⟩,
    fun bounded m round => borderedSurface_corners hn bounded ?_⟩
  · exact closedSurface_corners hn bounded rfl (closedSurface_cylinder many)
  · exact closedSurface_corners hn bounded rfl (closedSurface_cone many)
  · rcases round with ⟨radius, rfl | rfl | rfl⟩ | ⟨size, jitter, seed, generated⟩
    · rfl
    · rfl
    · rfl
    · exact (blob_eq_ok generated).1

/-- Three divisions close a cylinder and a cone; in a blob with one the diagonal has its reverse and
    the first line has not. -/
theorem edges_paired_three_and_one :
    ClosedSurface (cylinder 2 1 3).corners ∧ ClosedSurface (cone 2 1 3).corners ∧
    ∃ m, blob 1 1 0.1 42 = .ok m ∧
      (directedEdges m.corners).count (3, 0) = 1 ∧ (directedEdges m.corners).count (0, 3) = 1 ∧
      (directedEdges m.corners).count (0, 1) = 1 ∧ (directedEdges m.corners).count (1, 0) = 0 := by
  have ring := (edges_paired 3).1 (by decide)
  refine ⟨ring.1 (by decide) 2 1, ring.2 (by decide) 2 1, ?_⟩
  obtain ⟨m, generated⟩ := exists_eq_ok (x := blob 1 1 0.1 42) (by decide +kernel)
  have bordered := (edges_paired 1).2 (by decide) m (.inr ⟨1, 0.1, 42, generated⟩)
  have corners : m.corners = [0, 1, 3, 0, 3, 2] := by
    rw [Mesh.corners, (blob_eq_ok generated).1]
    decide
  obtain ⟨diagonal, -, inner⟩ := bordered (3, 0) (by rw [corners]; decide)
  obtain ⟨first, outer, -⟩ := bordered (0, 1) (by rw [corners]; decide)
  exact ⟨m, generated, diagonal, inner (by decide), first, outer (by decide)⟩

/-- The triangles of a ring of two points coincide. -/
example : ¬ ClosedSurface ((coneFaces 2).flatMap (·.triangles)) := by
  unfold ClosedSurface
  decide

end LayeredScene.Mesh
