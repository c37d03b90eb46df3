import LayeredScene.Compilation.Render
import LayeredScene.Proofs.Glb.Drawings
import LayeredScene.Proofs.Mesh.Arrays
import LayeredScene.Proofs.Scene.ResourceNames

/-! # Lookups in a scene find what belongs together

As long as the identifiers in a scene are distinct, it makes no difference how a resource is looked
up: the first match of a scene, the last match of the glTF exporter and the lookups of the summary
all find the geometry and the material of the same number as the node.
-/

namespace LayeredScene.Scene

open Glb (exportedOf)

variable {o : Object} {block k : Nat} {settings : Settings} {scene : Scene}

theorem nodup_geometries (distinct : scene.uuids.Nodup) :
    (scene.geometries.map (·.uuid)).Nodup :=
  (List.nodup_append.mp distinct).1

theorem nodup_materials (distinct : scene.uuids.Nodup) : (scene.materials.map (·.uuid)).Nodup :=
  (List.nodup_append.mp distinct).2.1

/-! ## Nodes -/

/-- All lookups lead from the `k`-th node to the `k`-th geometry and the `k`-th material.  The
    exporter only knows the geometries that it exports. -/
structure Resolves (scene : Scene) (k : Nat) (node : BodyNode) (g : SceneGeometry)
    (m : SceneMaterial) : Prop where
  geometry : scene.geometries[k]? = some g
  material : scene.materials[k]? = some m
  firstGeometry : scene.geometry? node.geometry = some g
  firstMaterial : scene.material? node.material = some m
  lastGeometry :
    (Gltf.lastIdx? (·.uuid == node.geometry) (exportedOf scene)).bind ((exportedOf scene)[·]?) =
      if g.isExported then some g else none
  lastMaterial : Gltf.lastIdx? (·.uuid == node.material) scene.materials = some k

theorem exists_resolves (h : ofObject o block settings = .ok scene) (distinct : scene.uuids.Nodup)
    {node : BodyNode} (hnode : scene.meshes[k]? = some node) :
    ∃ g m, Resolves scene k node g m := by
  obtain ⟨meshes, generated, rfl⟩ := ofObject_eq_ok h
  obtain ⟨s, hs⟩ : ∃ s, o.statements[k]? = some s := by
    rw [meshes_ofMeshes, getElem?_bodyNodesFrom, Option.map_eq_some_iff] at hnode
    obtain ⟨s, hs, -⟩ := hnode
    exact ⟨s, hs⟩
  obtain ⟨g, m, n, mesh, shows⟩ :
      ∃ g m n mesh, Shows settings (ofMeshes o block meshes) k s g m n mesh :=
    shows_ofMeshes generated hs
  obtain rfl : n = node := Option.some.inj (shows.node.symm.trans hnode)
  have onlyGeometry := onlyAt_of_nodup (nodup_geometries distinct) shows.geometry
  have onlyMaterial := onlyAt_of_nodup (nodup_materials distinct) shows.material
  have first := find?_of_onlyAt shows.geometry (by simp) onlyGeometry
  rw [← shows.node_geometry] at first
  refine ⟨g, m, shows.geometry, shows.material, first, ?_, ?_, ?_⟩
  · rw [shows.node_material]
    exact find?_of_onlyAt shows.material (by simp) onlyMaterial
  · -- The exporter looks among the exported geometries only.
    rcases Gltf.lastIdx?_exportedOf (nodup_geometries distinct) n.geometry with
      ⟨g', i, first', exported, hi, last⟩ | ⟨notExported, last⟩
    · obtain rfl : g' = g := Option.some.inj (first'.symm.trans first)
      rw [last, if_pos exported, Option.bind_some, hi]
    · rw [last, if_neg (notExported g first), Option.bind_none]
  · rw [shows.node_material]
    exact lastIdx?_of_onlyAt shows.material (by simp) onlyMaterial

/-! ## Layers -/

theorem getElem?_layerNodesFrom {ls : List Layer} {j : Nat} {l : Layer} (hl : ls[j]? = some l) :
    (layerNodesFrom o block k ls)[j]? =
      some (layerNode o block (k + joinedBefore (·.statements) ls j) l) := by
  induction ls generalizing k j with
  | nil => simp at hl
  | cons l' ls ih =>
    cases j with
    | zero =>
      cases hl
      rfl
    | succ j =>
      rw [layerNodesFrom, List.getElem?_cons_succ, ih (by simpa using hl)]
      simp [joinedBefore, Nat.add_assoc]

theorem vertexCount_ofMesh (uuid : String) (m : Mesh) :
    (SceneGeometry.ofMesh uuid m).vertexCount = m.vertices.length := by
  rw [SceneGeometry.vertexCount, SceneGeometry.ofMesh, m.length_positions,
    Nat.mul_div_cancel_left _ (by decide)]

/-- Nodes that are looked up one by one lead to their geometries. -/
theorem filterMap_geometry? {ss : List Statement} {own : List Mesh}
    (length : own.length = ss.length)
    (found : ∀ i m, own[i]? = some m → scene.geometry? (geometryId o block (k + i)) =
      some (.ofMesh (geometryId o block (k + i)) m)) :
    (bodyNodesFrom o block k ss).filterMap (fun node : BodyNode => scene.geometry? node.geometry) =
      geometriesFrom o block k own := by
  have lookup : ∀ i : Nat, (bodyNodesFrom o block k ss)[i]?.bind (fun node : BodyNode =>
      scene.geometry? node.geometry) = (geometriesFrom o block k own)[i]? := by
    intro i
    rw [getElem?_bodyNodesFrom, getElem?_geometriesFrom]
    cases hs : ss[i]? with
    | none => simp [List.getElem?_eq_none_iff.mpr (length ▸ List.getElem?_eq_none_iff.mp hs)]
    | some s =>
      obtain ⟨inside, -⟩ := List.getElem?_eq_some_iff.mp hs
      have hm := List.getElem?_eq_getElem (l := own) (i := i) (length ▸ inside)
      rw [hm]
      exact found i _ hm
  -- Every node leads somewhere, and so the nodes and what they lead to have the same numbers.
  have all : ∀ node ∈ bodyNodesFrom o block k ss, (scene.geometry? node.geometry).isSome := by
    intro node hnode
    obtain ⟨i, hi⟩ := List.getElem?_of_mem hnode
    have inside := lt_length_of_getElem? hi
    rw [length_bodyNodesFrom, ← length] at inside
    have found := lookup i
    rw [hi, Option.bind_some, getElem?_geometriesFrom, List.getElem?_eq_getElem inside] at found
    rw [found]
    rfl
  refine List.ext_getElem? fun i => ?_
  rw [getElem?_filterMap_of_isSome all, lookup]

theorem getElem?_geometries (o : Object) (block : Nat) {meshes : List Mesh} {m : Mesh}
    (hm : meshes[k]? = some m) : (ofMeshes o block meshes).geometries[k]? =
      some (.ofMesh (geometryId o block k) m) := by
  rw [ofMeshes, getElem?_geometriesFrom, hm, Nat.zero_add, Option.map_some]

theorem geometry?_geometryId {meshes : List Mesh} (distinct : (ofMeshes o block meshes).uuids.Nodup)
    {m : Mesh} (hm : meshes[k]? = some m) :
    Scene.geometry? (ofMeshes o block meshes) (geometryId o block k) =
      some (.ofMesh (geometryId o block k) m) := by
  have listed := getElem?_geometries o block hm
  have only := onlyAt_of_nodup (nodup_geometries distinct) listed
  have found := find?_of_onlyAt listed (by simp) only
  have uuid : (SceneGeometry.ofMesh (geometryId o block k) m).uuid = geometryId o block k := rfl
  rwa [uuid] at found

theorem sum_vertexCount_geometriesFrom (o : Object) (block k : Nat) (ms : List Mesh) :
    (geometriesFrom o block k ms).foldl (fun total g => total + g.vertexCount) 0 =
      (ms.map (·.vertices.length)).sum := by
  have counts : (geometriesFrom o block k ms).map (·.vertexCount) =
      ms.map (·.vertices.length) := by
    refine List.ext_getElem? fun i => ?_
    rw [List.getElem?_map, getElem?_geometriesFrom, List.getElem?_map, Option.map_map]
    exact congrArg (Option.map · ms[i]?) (funext fun m => vertexCount_ofMesh _ m)
  rw [← counts, List.sum_eq_foldl, List.foldl_map]

/-- The vertices that the summary counts for a layer are those generated for its statements. -/
theorem layerVertices_eq (h : ofObject o block settings = .ok scene)
    (distinct : scene.uuids.Nodup) {j : Nat} {l : Layer} (hl : o.layers[j]? = some l) :
    ∃ node own, scene.root.children[j]? = some node ∧ IsNodeOf o l node ∧
      l.statements.mapM (fun s => Mesh.ofStatement s settings.mesh) = .ok own ∧
      Compilation.layerVertices scene node = (own.map (·.vertices.length)).sum := by
  obtain ⟨meshes, generated, rfl⟩ := ofObject_eq_ok h
  -- The meshes of the layers before this one, its own, and those of the layers behind it.
  have split := congrArg (List.flatMap (·.statements)) (take_append_getElem_cons hl)
  rw [List.flatMap_append, List.flatMap_cons] at split
  rw [Object.statements, split] at generated
  obtain ⟨before, rest, hbefore, hrest, rfl⟩ := mapM_append_ok generated
  obtain ⟨own, after, hown, -, rfl⟩ := mapM_append_ok hrest
  have start : before.length = joinedBefore (·.statements) o.layers j := length_of_mapM_ok hbefore
  have found : ∀ i m, own[i]? = some m →
      Scene.geometry? (ofMeshes o block (before ++ (own ++ after)))
          (geometryId o block (before.length + i)) =
        some (.ofMesh (geometryId o block (before.length + i)) m) := by
    intro i m hm
    refine geometry?_geometryId distinct ?_
    rw [List.getElem?_append_right (Nat.le_add_right _ _), Nat.add_sub_cancel_left,
      List.getElem?_append_left (lt_length_of_getElem? hm), hm]
  have node : (ofMeshes o block (before ++ (own ++ after))).root.children[j]? =
      some (layerNode o block before.length l) := by
    rw [start, ← Nat.zero_add (joinedBefore _ _ _)]
    exact getElem?_layerNodesFrom hl
  refine ⟨_, own, node, ⟨rfl, length_bodyNodesFrom l.statements, rfl⟩, hown, ?_⟩
  rw [Compilation.layerVertices, ← sum_vertexCount_geometriesFrom o block,
    ← filterMap_geometry? (length_of_mapM_ok hown) found]
  rfl

end LayeredScene.Scene
