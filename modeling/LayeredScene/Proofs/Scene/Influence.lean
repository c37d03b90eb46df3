import LayeredScene.Proofs.Mesh.Faces
import LayeredScene.Proofs.Scene.Mirror

/-! # What settings can change about a scene

All generators get the same kind of spec, in which every setting leaves a trace, but each of them
reads only what its shape needs.  `ofStatement_congr` says so shape by shape: settings that agree on
these numbers give a statement the same mesh.  Everything else about a scene comes from the object
alone, so that `settings_influence` only has to compare the meshes.
-/

namespace LayeredScene

/-- The jitters are the same number, where zero and its negative count as the same. -/
def SameJitter (j j' : Float) : Prop :=
  j = j' ∨ j == j'

/-- The settings agree on everything that the mesh of a shape depends on. -/
def MeshSettings.AgreeFor (a b : MeshSettings) : Shape → Prop
  | .cube | .pyramid => True
  | .sphere | .egg | .droplet => a.sphereSegments = b.sphereSegments
  | .cylinder | .cone => a.cylinderSegments = b.cylinderSegments
  | .blob =>
    a.blobSegments = b.blobSegments ∧ SameJitter a.blobJitter b.blobJitter ∧ a.seed = b.seed

/-! ## Amplitudes -/

section

open Float.Model.UnpackedFloat

/-- Whether a zero times a number is a zero or is not a number is up to the other one. -/
theorem zero_mul_cases (u : Float.Model.UnpackedFloat) :
    (∀ sign, ∃ sign', mul .binary32 (zero sign) u = zero sign') ∨
      ∀ sign, mul .binary32 (zero sign) u = notANumber := by
  cases u with
  | zero | finite => exact .inl fun sign => ⟨_, rfl⟩
  | infinity | notANumber => exact .inr fun sign => rfl

/-- The sign of a zero is lost when its product with a size becomes an amplitude. -/
theorem abs_zero_mul (size : Float32) : ((-0 : Float32) * size).abs = (0 * size).abs := by
  have product {x : Float32} {s : Sign} (h : x.toModel.unpack = zero s) :
      x * size = .ofModel (.pack (mul .binary32 (zero s) size.toModel.unpack)) := by
    rw [← h]
    rfl
  have abs (sign : Sign) : (Float32.ofModel (.pack (zero sign))).abs = 0 := by
    cases sign <;> rfl
  rw [product (s := .negative) rfl, product (s := .positive) rfl]
  cases zero_mul_cases size.toModel.unpack with
  | inl zeros =>
    obtain ⟨s, hs⟩ := zeros .negative
    obtain ⟨t, ht⟩ := zeros .positive
    rw [hs, ht, abs, abs]
  | inr noNumber => rw [noNumber, noNumber]

end

theorem amplitude_congr {j j' : Float} (same : SameJitter j j') (size : Float32) :
    (narrow j * size).abs = (narrow j' * size).abs := by
  have positive : narrow 0 = 0 := by decide
  have negative : narrow (-0) = -0 := by decide
  cases same with
  | inl equal => rw [equal]
  | inr equal =>
    obtain ⟨-, -, equal | ⟨first, second⟩ | ⟨first, second⟩⟩ := Float.beq_iff_ne_nan_and_eq.mp equal
    · rw [equal]
    · rw [first, second, positive, negative, abs_zero_mul]
    · rw [first, second, positive, negative, abs_zero_mul]

/-! ## Meshes -/

namespace Mesh

/-- A blob knows of the jitter by its amplitude only. -/
theorem blob_congr {size jitter jitter' : Float32}
    (same : (jitter * size).abs = (jitter' * size).abs) (segments : UInt32) (seed : UInt64) :
    blob size segments jitter seed = blob size segments jitter' seed := by
  rw [blob, blob, same]

theorem ofStatement_congr {s : Statement} {a b : MeshSettings} (agree : a.AgreeFor b s.shape) :
    ofStatement s a = ofStatement s b := by
  rw [ofStatement, ofStatement]
  cases shape : s.shape with
  | cube => rfl
  | pyramid => rfl
  | sphere | egg | droplet | cylinder | cone =>
    rw [shape] at agree
    have segments : a.segmentsFor s.shape = b.segmentsFor s.shape := by
      rw [shape]
      exact agree
    simp only [ofSpec, ShapeSpec.ofStatement, ShapeSpec.radius, segments]
  | blob =>
    rw [shape] at agree
    obtain ⟨segments, jitter, seed⟩ := agree
    have segments : a.segmentsFor s.shape = b.segmentsFor s.shape := by
      rw [shape]
      exact segments
    have amplitude := amplitude_congr jitter (s.size.map narrow).x
    simp only [ofSpec, ShapeSpec.ofStatement, segments, seed]
    exact blob_congr amplitude _ _

/-- A mesh is marked with the shape that it is of. -/
theorem shape_of_ofSpec {shape : Shape} {p : ShapeSpec} {m : Mesh} (h : ofSpec shape p = .ok m) :
    m.shape = shape := by
  cases shape with
  | blob =>
    rw [ofSpec, blob] at h
    simp only at h
    -- The sphere that the blob starts from has been marked anew before its vertices are moved.
    split at h
    · obtain rfl := Except.ok.inj h
      rfl
    · obtain ⟨scale, -, h⟩ := bind_eq_ok h
      obtain rfl := Except.ok.inj h
      rfl
  | _ =>
    obtain rfl := Except.ok.inj h
    rfl

end Mesh

namespace Scene

variable {o : Object} {block : Nat}

/-! ## Scenes -/

/-- The identifiers and the names of the geometries come from the statements alone. -/
theorem geometries_ofMeshes {settings : MeshSettings} {meshes : List Mesh}
    (generated : o.statements.mapM (fun s => Mesh.ofStatement s settings) = .ok meshes) :
    (ofMeshes o block meshes).geometries.map (fun g => (g.uuid, g.name)) =
      o.statements.zipIdx.map fun (s, k) => (geometryId o block k, s.shape.keyword) := by
  apply List.ext_getElem?
  intro k
  rw [List.getElem?_map, ofMeshes, getElem?_geometriesFrom, getElem?_map_zipIdx]
  cases hs : o.statements[k]? with
  | none =>
    have beyond : meshes[k]? = none := by
      rw [List.getElem?_eq_none_iff, length_of_mapM_ok generated]
      exact List.getElem?_eq_none_iff.mp hs
    rw [beyond]
    rfl
  | some s =>
    obtain ⟨m, hm, own⟩ := getElem?_of_mapM_ok generated hs
    have shape : m.shape = s.shape := Mesh.shape_of_ofSpec own
    rw [hm]
    simp [SceneGeometry.ofMesh, shape]

/-- Settings that agree for the shape of a statement give it the same geometry. -/
theorem geometry_congr {a b : Settings} {ms ms' : List Mesh} {k : Nat} {s : Statement}
    (hms : o.statements.mapM (fun s => Mesh.ofStatement s a.mesh) = .ok ms)
    (hms' : o.statements.mapM (fun s => Mesh.ofStatement s b.mesh) = .ok ms')
    (hs : o.statements[k]? = some s) (agree : a.mesh.AgreeFor b.mesh s.shape) :
    ∃ g, (ofMeshes o block ms).geometries[k]? = some g ∧
      (ofMeshes o block ms').geometries[k]? = some g := by
  obtain ⟨m, hm, own⟩ := getElem?_of_mapM_ok hms hs
  obtain ⟨m', hm', own'⟩ := getElem?_of_mapM_ok hms' hs
  have same : m = m' := by
    rw [Mesh.ofStatement_congr agree, own'] at own
    exact (Except.ok.inj own).symm
  refine ⟨.ofMesh (geometryId o block (0 + k)) m, ?_, ?_⟩
  · rw [ofMeshes, getElem?_geometriesFrom, hm, Option.map_some]
  · rw [ofMeshes, getElem?_geometriesFrom, hm', Option.map_some, same]

/-- Two settings give an object scenes with the same header, materials, nodes, and identifiers and
    names of geometries; a geometry is the same if the settings agree for its shape.  So how the
    scene is made and written plays no part, and the seed changes nothing but blobs. -/
theorem settings_influence (o : Object) (block : Nat) (a b : Settings) (s t : Scene)
    (hs : ofObject o block a = .ok s) (ht : ofObject o block b = .ok t) :
    s.header = t.header ∧ s.materials = t.materials ∧ s.root = t.root ∧
    s.geometries.map (fun g => (g.uuid, g.name)) = t.geometries.map (fun g => (g.uuid, g.name)) ∧
    (∀ (k : Nat) (st : Statement), o.statements[k]? = some st →
      a.mesh.AgreeFor b.mesh st.shape → ∃ g, s.geometries[k]? = some g ∧ t.geometries[k]? = some g) ∧
    (∀ output, ofObject o block { a with output } = .ok s) ∧
    (b.mesh = { a.mesh with seed := b.mesh.seed } → ∀ (k : Nat) (st : Statement),
      o.statements[k]? = some st →
      st.shape ≠ .blob → ∃ g, s.geometries[k]? = some g ∧ t.geometries[k]? = some g) := by
  obtain ⟨ms, hms, rfl⟩ := ofObject_eq_ok hs
  obtain ⟨ms', hms', rfl⟩ := ofObject_eq_ok ht
  refine ⟨rfl, rfl, rfl, ?_, ?_, ?_, ?_⟩
  · rw [geometries_ofMeshes hms, geometries_ofMeshes hms']
  · intro k st hst agree
    exact geometry_congr hms hms' hst agree
  · intro output
    rw [ofObject_eq_map, hms]
    rfl
  · intro onlySeed k st hst noBlob
    apply geometry_congr hms hms' hst
    rw [onlySeed]
    cases shape : st.shape with
    | blob => exact absurd shape noBlob
    | cube | pyramid => trivial
    | _ => rfl

/-- A cone with a blob on it. -/
def tree : Object :=
  { objectType := "TREE"
    isComposite := false
    layers :=
      [⟨"trunk", [{ Statement.plain "TREE" "trunk" with shape := .cone }]⟩,
       ⟨"crown", [{ Statement.plain "TREE" "crown" with shape := .blob }]⟩]
    layerCount := 2
    precision := .standard }

/-- The cone stays as it is under another seed, and under other divisions of spheres and blobs. -/
theorem settings_influence_tree :
    ∃ s t u, ofObject tree 3 { mesh := { blobSegments := 1 } } = .ok s ∧
      ofObject tree 3 { mesh := { blobSegments := 1, seed := 9 } } = .ok t ∧
      ofObject tree 3 { mesh := { sphereSegments := 5, blobSegments := 2, blobJitter := 0.5 } } =
        .ok u ∧
      s.root = t.root ∧ (∃ g, s.geometries[0]? = some g ∧ t.geometries[0]? = some g) ∧
      s.root = u.root ∧ (∃ g, s.geometries[0]? = some g ∧ u.geometries[0]? = some g) ∧
      s.geometries.map (·.indices.values.length) ≠ u.geometries.map (·.indices.values.length) := by
  obtain ⟨s, hs, few⟩ := exists_eq_ok_of (x := ofObject tree 3 { mesh := { blobSegments := 1 } })
    (p := fun s => s.geometries.map (·.indices.values.length) = [192, 6]) (by decide +kernel)
  obtain ⟨t, ht⟩ := exists_eq_ok
    (x := ofObject tree 3 { mesh := { blobSegments := 1, seed := 9 } }) (by decide +kernel)
  obtain ⟨u, hu, more⟩ := exists_eq_ok_of
    (x := ofObject tree 3 { mesh := { sphereSegments := 5, blobSegments := 2, blobJitter := 0.5 } })
    (p := fun u => u.geometries.map (·.indices.values.length) = [192, 24]) (by decide +kernel)
  obtain ⟨-, -, root, -, -, -, onlySeed⟩ := settings_influence tree 3 _ _ s t hs ht
  obtain ⟨-, -, root', -, agree, -⟩ := settings_influence tree 3 _ _ s u hs hu
  refine ⟨s, t, u, hs, ht, hu, root, onlySeed rfl 0 _ rfl (by decide), root', agree 0 _ rfl rfl, ?_⟩
  rw [of_decide_eq_true few, of_decide_eq_true more]
  decide

end Scene

end LayeredScene
