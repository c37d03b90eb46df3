import LayeredScene.Proofs.Glb.Buffer
import LayeredScene.Proofs.Glb.Size
import LayeredScene.Proofs.Lookup
import LayeredScene.Proofs.Traversal

/-! # A GLB file shows what the scene shows

A viewer that reads the file of a scene finds a drawing for each body whose geometry has a complete
vertex and an index, in the order of the bodies, with the very numbers of that geometry.

The exporter numbers several things at once: the geometries that it exports, the nodes, and the
meshes, which are counted through all layers.  The lemmas take these apart: the nodes with a mesh
are the drawn bodies with their meshes counted through (`filter_isMesh_nodesFrom`), a viewer finds
the geometry that a drawn body has been given (`drawing?_nodeOf`), and the exporter gives every body
the right one (`forall₂_drawnIn`).  Only the last of them needs the identifiers to be distinct.
-/

namespace LayeredScene

namespace Gltf

variable {s : Scene} {gs : List SceneGeometry}

/-! ## The nodes with a mesh -/

def drawnIn (s : Scene) (gs : List SceneGeometry) : List Drawn :=
  s.root.children.flatMap (drawnOf gs)

theorem drawnIn_eq (s : Scene) (gs : List SceneGeometry) :
    drawnIn s gs = s.meshes.filterMap fun node =>
      (lastIdx? (·.uuid == node.geometry) gs).map fun k => ⟨node, k⟩ := by
  rw [Scene.meshes, List.filterMap_flatMap]
  rfl

/-- The nodes with a mesh are those of the drawn bodies, and their meshes are counted through. -/
theorem filter_isMesh_nodesFrom (node mesh : Nat) (layers : List (LayerNode × List Drawn)) :
    (nodesFrom node mesh layers).filter GltfNode.isMesh =
      ((layers.flatMap (·.2)).zipIdx mesh).map fun (d, k) => nodeOf d k := by
  induction layers generalizing node mesh with
  | nil => rfl
  | cons l ls ih =>
    obtain ⟨l, drawn⟩ := l
    -- In front of the nodes of a layer stands its own, which has no mesh.
    have all : ((drawn.zipIdx mesh).map fun (d, k) => nodeOf d k).filter GltfNode.isMesh =
        (drawn.zipIdx mesh).map fun (d, k) => nodeOf d k := by
      rw [List.filter_eq_self]
      intro n hn
      obtain ⟨⟨d, k⟩, -, rfl⟩ := List.mem_map.mp hn
      rfl
    rw [nodesFrom, List.filter_append, all, List.filter_cons_of_neg Bool.false_ne_true, ih,
      List.flatMap_cons, List.zipIdx_append, List.map_append]

theorem filter_isMesh_nodes (s : Scene) (gs : List SceneGeometry) :
    (ofScene s gs).nodes.filter GltfNode.isMesh =
      (drawnIn s gs).zipIdx.map fun (d, k) => nodeOf d k := by
  rw [ofScene, List.filter_cons_of_neg Bool.false_ne_true, filter_isMesh_nodesFrom, drawnIn,
    List.flatMap_map]

theorem meshes_ofScene (s : Scene) (gs : List SceneGeometry) :
    (ofScene s gs).meshes = (drawnIn s gs).map (meshOf s.materials) := by
  rw [ofScene, List.flatMap_map, drawnIn, List.map_flatMap]

/-! ## What a drawn body shows -/

/-- The number of a material was found among the materials, so that it is one of theirs. -/
theorem lt_of_material_meshOf {ms : List SceneMaterial} {d : Drawn} {k : Nat}
    (named : (meshOf ms d).material = some k) : k < ms.length := by
  simp only [meshOf] at named
  obtain ⟨m, hm, -⟩ := exists_of_lastIdx? named
  exact lt_length_of_getElem? hm

end Gltf

/-! ## The bodies that are drawn -/

theorem SceneGeometry.isExported_iff (g : SceneGeometry) :
    g.isExported ↔ 3 ≤ g.positions.values.length ∧ g.indices.values ≠ [] := by
  have vertex : g.vertexCount ≠ 0 ↔ 3 ≤ g.positions.values.length := by
    rw [vertexCount]
    omega
  simp only [isExported, Bool.and_eq_true, bne_iff_ne, vertex, Bool.not_eq_true',
    List.isEmpty_eq_false_iff]

namespace Gltf

open Glb (exportedOf)

variable {s : Scene}

/-- Where the geometry of a body lies among those that are exported. -/
theorem lastIdx?_exportedOf (distinct : (s.geometries.map (·.uuid)).Nodup) (uuid : String) :
    (∃ g k, s.geometry? uuid = some g ∧ g.isExported ∧ (exportedOf s)[k]? = some g ∧
      lastIdx? (·.uuid == uuid) (exportedOf s) = some k) ∨
    ((∀ g, s.geometry? uuid = some g → ¬ g.isExported) ∧
      lastIdx? (·.uuid == uuid) (exportedOf s) = none) := by
  have distinctExported : ((exportedOf s).map (·.uuid)).Nodup :=
    (List.filter_sublist.map _).nodup distinct
  -- A geometry with the identifier is the only one, both among all and among the exported.
  by_cases found : ∃ g ∈ exportedOf s, g.uuid = uuid
  · obtain ⟨g, hg, rfl⟩ := found
    obtain ⟨listed, exported⟩ := List.mem_filter.mp hg
    obtain ⟨i, hi⟩ := List.getElem?_of_mem listed
    obtain ⟨k, hk⟩ := List.getElem?_of_mem hg
    have first := find?_of_onlyAt hi (by simp) (onlyAt_of_nodup distinct hi)
    have last := lastIdx?_of_onlyAt hk (by simp) (onlyAt_of_nodup distinctExported hk)
    exact .inl ⟨g, k, first, exported, hk, last⟩
  · refine .inr ⟨fun g hg exported => found ⟨g, List.mem_filter.mpr ?_, ?_⟩, ?_⟩
    · exact ⟨List.mem_of_find?_eq_some hg, exported⟩
    · simpa using List.find?_some hg
    · exact lastIdx?_eq_none fun g hg => by simpa using fun same => found ⟨g, hg, same⟩

end Gltf

namespace Glb

/-- A shelf with geometries of all kinds: one without indices, one with coordinates that make up no
    vertex, and two that can be drawn, of which one is drawn twice.  One body names a geometry and
    one a material that the shelf does not have. -/
def shelf : Scene :=
  let geometry (uuid : String) (positions : List Float32) (indices : List UInt32) : SceneGeometry :=
    ⟨uuid, "BufferGeometry", uuid, ⟨3, "Float32Array", positions, false⟩, ⟨"Uint16Array", indices⟩⟩
  let material (uuid color : String) : SceneMaterial :=
    ⟨uuid, "MeshStandardMaterial", uuid, color, 0.5, 0, false, 1⟩
  let body (name geometry material : String) : BodyNode :=
    ⟨"Mesh", name, geometry, material, .identity⟩
  let layer (name : String) (children : List BodyNode) : LayerNode :=
    ⟨"Group", name, .ofName name false, children⟩
  { header := ⟨Scene.sceneVersion, "Object", Scene.maker, "SHELF", false, 2, 6, .standard⟩
    geometries :=
      [geometry "bare" [0, 1, 2] [], geometry "board" [0, 1, -0.5, 0.1] [0, 0, 0],
       geometry "point" [0, 1] [0], geometry "wall" [2, 0.25, -1, 3, 4, 5] [1, 0, 1, 1]]
    materials := [material "oak" "#8b6f47", material "stone" "grey"]
    root := ⟨"Group", "SHELF",
      [layer "front" [body "a" "wall" "stone", body "b" "bare" "oak", body "c" "board" "glass"],
       layer "back" [body "d" "rail" "oak", body "e" "point" "oak", body "f" "board" "oak"]]⟩ }

theorem ofScene_shelf_ne_nil : ofScene shelf ≠ [] :=
  mt (ofScene_eq_nil_iff shelf).mp (by decide)

theorem length_ofScene_shelf_lt : (ofScene shelf).length < 2 ^ 32 :=
  length_ofScene_lt (by decide +kernel)

end Glb

end LayeredScene
