import LayeredScene.Proofs.Glb.Drawings
import LayeredScene.Proofs.Mesh.Arrays
import LayeredScene.Proofs.Numeric.Order

/-! # The bounds of position accessors

An accessor of positions gives the least and the greatest coordinates.  They are found by a search
that starts from the greatest finite number and from its negative, while the bounds of a mesh are
found by one that starts from its first vertex.  Axis by axis both come down to the same: the first
finite number takes the place of either start.
-/

namespace LayeredScene

/-! ## Axis by axis -/

namespace Triple

variable {α β γ : Type}

/-- The value on an axis. -/
def on (t : Triple α) : Fin 3 → α
  | 0 => t.x
  | 1 => t.y
  | 2 => t.z

theorem ext_on {s t : Triple α} (h : ∀ axis, s.on axis = t.on axis) : s = t := by
  obtain ⟨x, y, z⟩ := s
  obtain ⟨x', y', z'⟩ := t
  have hx : x = x' := h 0
  have hy : y = y' := h 1
  have hz : z = z' := h 2
  rw [hx, hy, hz]

@[simp] theorem on_zipWith (f : α → β → γ) (s : Triple α) (t : Triple β) (axis : Fin 3) :
    (s.zipWith f t).on axis = f (s.on axis) (t.on axis) :=
  match axis with
  | 0 | 1 | 2 => rfl

@[simp] theorem on_splat (a : α) (axis : Fin 3) : (splat a).on axis = a :=
  match axis with
  | 0 | 1 | 2 => rfl

end Triple

/-- A search for the least and the greatest triples is one on each axis. -/
theorem on_foldl_extent (vs : List (Triple Float32)) (low high : Triple Float32) (axis : Fin 3) :
    let found := vs.foldl (fun (low, high) v => (low.zipWith lesser v, high.zipWith greater v))
      (low, high)
    found.1.on axis = (vs.map (·.on axis)).foldl lesser (low.on axis) ∧
      found.2.on axis = (vs.map (·.on axis)).foldl greater (high.on axis) := by
  induction vs generalizing low high with
  | nil => exact ⟨rfl, rfl⟩
  | cons v vs ih => simpa using ih (low.zipWith lesser v) (high.zipWith greater v)

/-! ## The vertices of a list of coordinates -/

theorem length_wholeTriples (xs : List Float32) : (wholeTriples xs).length = xs.length / 3 := by
  fun_induction wholeTriples xs with
  | case1 x y z rest ih =>
    simp only [List.length_cons, ih]
    omega
  | case2 xs short =>
    match xs with
    | [] => rfl
    | [_] | [_, _] => exact (Nat.div_eq_of_lt (by simp)).symm
    | x :: y :: z :: rest => exact absurd rfl (short x y z rest)

theorem getElem?_of_wholeTriples {xs : List Float32} {k : Nat} {v : Triple Float32}
    (h : (wholeTriples xs)[k]? = some v) (axis : Fin 3) : xs[3 * k + axis]? = some (v.on axis) := by
  fun_induction wholeTriples xs generalizing k with
  | case1 x y z rest ih =>
    cases k with
    | zero =>
      cases h
      match axis with
      | 0 | 1 | 2 => rfl
    | succ k =>
      rw [Nat.mul_succ, Nat.add_right_comm]
      exact ih (by simpa using h)
  | case2 => cases h

theorem wholeTriples_positions (m : Mesh) : wholeTriples m.positions = m.vertices := by
  rw [Mesh.positions]
  induction m.vertices with
  | nil => rfl
  | cons v vs ih => exact congrArg (v :: ·) ih

namespace SceneGeometry

variable {g : SceneGeometry}

def vertices (g : SceneGeometry) : List (Triple Float32) := wholeTriples g.positions.values

theorem length_vertices (g : SceneGeometry) : g.vertices.length = g.vertexCount := by
  rw [vertices, length_wholeTriples, vertexCount]

theorem vertices_ne_nil (h : g.isExported) : g.vertices ≠ [] := by
  rw [isExported, Bool.and_eq_true, bne_iff_ne, ← g.length_vertices] at h
  exact List.ne_nil_of_length_pos (Nat.pos_of_ne_zero h.1)

/-- The coordinate of a vertex is at its place among the positions. -/
theorem getElem?_positions {k : Nat} {v : Triple Float32} (h : g.vertices[k]? = some v)
    (axis : Fin 3) : g.positions.values[3 * k + axis]? = some (v.on axis) :=
  getElem?_of_wholeTriples h axis

/-- The coordinates of the vertices are those positions that belong to a complete triple. -/
theorem mem_coordinates_iff {axis : Fin 3} {x : Float32} :
    x ∈ g.vertices.map (·.on axis) ↔
      ∃ k < g.vertexCount, g.positions.values[3 * k + axis]? = some x := by
  constructor
  · intro hx
    obtain ⟨v, hv, rfl⟩ := List.mem_map.mp hx
    obtain ⟨k, found⟩ := List.getElem?_of_mem hv
    have inside := lt_length_of_getElem? found
    rw [length_vertices] at inside
    exact ⟨k, inside, getElem?_positions found axis⟩
  · rintro ⟨k, inside, found⟩
    rw [← length_vertices] at inside
    have vertex := List.getElem?_eq_getElem inside
    obtain rfl := Option.some.inj (found.symm.trans (getElem?_positions vertex axis))
    exact List.mem_map_of_mem (List.getElem_mem inside)

theorem isFinite_of_mem_coordinates (finite : ∀ x ∈ g.positions.values, x.isFinite)
    {axis : Fin 3} {x : Float32} (h : x ∈ g.vertices.map (·.on axis)) : x.isFinite := by
  obtain ⟨k, -, found⟩ := mem_coordinates_iff.mp h
  exact finite x (List.mem_of_getElem? found)

end SceneGeometry

/-! ## Tight bounds -/

/-- On each axis, the numbers are bounds of the coordinates of all complete vertices, and each of
them is the coordinate of a vertex. -/
def SceneGeometry.TightlyBounded (g : SceneGeometry) (low high : Triple Float32) : Prop :=
  ∀ axis : Fin 3,
    (∀ k < g.vertexCount, ∃ x, g.positions.values[3 * k + axis]? = some x ∧
      low.on axis ≤ x ∧ x ≤ high.on axis) ∧
    (∃ k < g.vertexCount, g.positions.values[3 * k + axis]? = some (low.on axis)) ∧
    ∃ k < g.vertexCount, g.positions.values[3 * k + axis]? = some (high.on axis)

/-- The search from the greatest finite number and its negative is that from the first vertex. -/
theorem on_extentOf {first : Triple Float32} (vs : List (Triple Float32)) {axis : Fin 3}
    (finite : (first.on axis).isFinite) :
    (extentOf (first :: vs)).1.on axis =
        (vs.map (·.on axis)).foldl lesser (first.on axis) ∧
      (extentOf (first :: vs)).2.on axis =
        (vs.map (·.on axis)).foldl greater (first.on axis) := by
  have found :=
    on_foldl_extent (first :: vs) (.splat greatestSingle) (.splat (-greatestSingle)) axis
  simp only [List.map_cons, List.foldl_cons, Triple.on_splat, lesser_greatestSingle finite,
    greater_neg_greatestSingle finite] at found
  exact found

theorem bounds_eq_extentOf {m : Mesh} {first : Triple Float32} {vs : List (Triple Float32)}
    (vertices : m.vertices = first :: vs) (finite : ∀ axis, (first.on axis).isFinite) :
    m.bounds = some (extentOf (first :: vs)) := by
  rw [Mesh.bounds, vertices]
  refine congrArg some (Prod.ext ?_ ?_) <;> refine Triple.ext_on fun axis => ?_
  · rw [(on_extentOf vs (finite axis)).1, (on_foldl_extent _ _ _ axis).1, List.map_cons,
      List.foldl_cons, lesser_self]
  · rw [(on_extentOf vs (finite axis)).2, (on_foldl_extent _ _ _ axis).2, List.map_cons,
      List.foldl_cons, greater_self]

namespace SceneGeometry

variable {g : SceneGeometry}

theorem tightlyBounded_extentOf (exported : g.isExported)
    (finite : ∀ x ∈ g.positions.values, x.isFinite) :
    g.TightlyBounded (extentOf g.vertices).1 (extentOf g.vertices).2 := by
  intro axis
  obtain ⟨first, vs, vertices⟩ := List.exists_cons_of_ne_nil (vertices_ne_nil exported)
  have coordinates : g.vertices.map (·.on axis) = first.on axis :: vs.map (·.on axis) := by
    rw [vertices, List.map_cons]
  have numbers : ∀ x ∈ first.on axis :: vs.map (·.on axis), x.isFinite := fun x hx =>
    isFinite_of_mem_coordinates finite (coordinates ▸ hx)
  obtain ⟨least, greatest⟩ := on_extentOf vs (numbers _ List.mem_cons_self)
  rw [vertices, least, greatest]
  simp only [← mem_coordinates_iff, coordinates]
  refine ⟨fun k inside => ?_, foldl_mem_of_picks lesser_eq_or _ _,
    foldl_mem_of_picks greater_eq_or _ _⟩
  obtain ⟨v, found⟩ : ∃ v, g.vertices[k]? = some v :=
    ⟨_, List.getElem?_eq_getElem (g.length_vertices ▸ inside)⟩
  have among := List.mem_map_of_mem (f := (·.on axis)) (List.mem_of_getElem? found)
  rw [coordinates] at among
  exact ⟨v.on axis, getElem?_positions found axis,
    foldl_lesser_le (fun x hx => isNaN_of_isFinite (numbers x hx)) _ among,
    le_foldl_greater (fun x hx => isNaN_of_isFinite (numbers x hx)) _ among⟩

theorem bounds_eq_of_eq_ofMesh {uuid : String} {m : Mesh} (made : g = .ofMesh uuid m)
    (exported : g.isExported) (finite : ∀ x ∈ g.positions.values, x.isFinite) :
    m.bounds = some (extentOf g.vertices) := by
  have same : g.vertices = m.vertices := by
    rw [made]
    exact wholeTriples_positions m
  obtain ⟨first, vs, vertices⟩ := List.exists_cons_of_ne_nil (vertices_ne_nil exported)
  rw [vertices]
  refine bounds_eq_extentOf (same ▸ vertices) fun axis => ?_
  exact isFinite_of_mem_coordinates finite (List.mem_map_of_mem (by simp [vertices]))

end SceneGeometry

/-! ## Files of scenes -/

namespace Glb

/-- A file is packed from an asset: a text that is read as its document, and its buffer. -/
def PackedFrom (file : List UInt8) (a : Asset) : Prop :=
  ∃ text, file = pack text a.buffer ∧ value? (padded text) = some a.document

theorem packedFrom_ofScene {s : Scene} (nonempty : ofScene s ≠ []) :
    PackedFrom (ofScene s) (Gltf.assetOf s (exportedOf s)) :=
  ⟨_, ofScene_eq_pack nonempty, value?_padded (Gltf.nesting_toJson_lt _)⟩

/-- The accessor of the positions of an exported geometry without infinities and not-a-numbers
    gives tight bounds.  They are the bounds of the mesh, if the geometry was made from one. -/
theorem accessorBounds_ofScene {s : Scene} {k : Nat} {g : SceneGeometry}
    (exported : (exportedOf s)[k]? = some g) (finite : ∀ x ∈ g.positions.values, x.isFinite) :
    ∃ a accessor low high, PackedFrom (ofScene s) a ∧
      a.column? .positions (.ofJson (.nat (2 * k))) = some (g.positions.values.map bitsOfSingle) ∧
      a.element? "accessors" (.ofJson (.nat (2 * k))) = some accessor ∧
      accessor.member? "min" = some (.ofJson (Gltf.reals low.toList)) ∧
      accessor.member? "max" = some (.ofJson (Gltf.reals high.toList)) ∧
      g.TightlyBounded low high ∧
      ∀ uuid m, g = .ofMesh uuid m → m.bounds = some (low, high) := by
  have isExported : g.isExported := (List.mem_filter.mp (List.mem_of_getElem? exported)).2
  have nonempty : ofScene s ≠ [] := by
    rw [Ne, ofScene_eq_nil_iff]
    exact List.ne_nil_of_mem (List.mem_of_getElem? exported)
  have accessor : (Gltf.ofScene s (exportedOf s)).accessors[2 * k]? =
      some (.positions (2 * k) g.vertexCount (extentOf g.vertices).1 (extentOf g.vertices).2) :=
    Gltf.getElem?_accessors exported (i := 0) (by decide)
  have element : (Gltf.assetOf s (exportedOf s)).element? "accessors" (.ofJson (.nat (2 * k))) =
      _ := (Asset.element?_accessors _).trans (congrArg (Option.map _) accessor)
  exact ⟨_, _, _, _, packedFrom_ofScene nonempty, Gltf.column?_positions s exported, element,
    by simp [Gltf.accessorJson], by simp [Gltf.accessorJson],
    SceneGeometry.tightlyBounded_extentOf isExported finite,
    fun _ _ made => SceneGeometry.bounds_eq_of_eq_ofMesh made isExported finite⟩

/-- A mesh with no coordinate above zero. -/
def sunken : Mesh :=
  ⟨.pyramid, [⟨-1, -2, -3⟩, ⟨-4, -0.5, -6⟩, ⟨-2.5, -8, -0.25⟩], [.tri 0 1 2]⟩

theorem accessorBounds_ofScene_sunken :
    (exportedOf { shelf with geometries := [.ofMesh "pit" sunken] })[0]? =
        some (.ofMesh "pit" sunken) ∧
      (∀ x ∈ (SceneGeometry.ofMesh "pit" sunken).positions.values, x.isFinite) ∧
      ∃ a accessor, PackedFrom (ofScene { shelf with geometries := [.ofMesh "pit" sunken] }) a ∧
        a.element? "accessors" (.ofJson (.nat 0)) = some accessor ∧
        accessor.member? "min" = some (.ofJson (Gltf.reals [-4, -8, -6])) ∧
        accessor.member? "max" = some (.ofJson (Gltf.reals [-1, -0.5, -0.25])) := by
  have exported : (exportedOf { shelf with geometries := [.ofMesh "pit" sunken] })[0]? =
      some (.ofMesh "pit" sunken) := by decide +kernel
  have finite : ∀ x ∈ (SceneGeometry.ofMesh "pit" sunken).positions.values, x.isFinite := by
    decide +kernel
  obtain ⟨a, accessor, low, high, packed, -, element, least, greatest, -, made⟩ :=
    accessorBounds_ofScene exported finite
  have bounds : sunken.bounds = some (⟨-4, -8, -6⟩, ⟨-1, -0.5, -0.25⟩) := by decide +kernel
  obtain ⟨rfl, rfl⟩ := Prod.mk.inj (Option.some.inj ((made "pit" sunken rfl).symm.trans bounds))
  exact ⟨exported, finite, a, accessor, packed, element, least, greatest⟩

end Glb

end LayeredScene
