import LayeredScene.Proofs.Glb.NodeTree
import LayeredScene.Proofs.Mesh.Faces
import LayeredScene.Proofs.Scene.Lookups

/-! # The exporter skips nothing of an object

The exporter leaves out geometries without a vertex or an index and bodies whose geometry it does
not find, and of several resources with the same identifier it only sees the last.  In the scene of
an object none of this happens as long as identifiers are distinct, so that the parts of the glTF
document have the numbers of the statements that they come from.
-/

namespace LayeredScene

/-! ## Complete documents -/

namespace Glb

/-- A node is that of a layer: it has as many children as the layer has statements, and some. -/
def HoldsLayer (c : Contents) (l : Layer) (node : Nat) : Prop :=
  ∃ children, c.nodes[node]? = some ⟨l.name, none, children⟩ ∧ children ≠ [] ∧
    children.length = l.statements.length

/-- A document has all of an object.  Its root has a node for every layer, and in the order of the
    layers these have a node for every statement.  The `k`-th of them has the `k`-th mesh, with the
    `k`-th pair of accessors and the `k`-th material, and nothing else is there. -/
structure Complete (o : Object) (c : Contents) : Prop where
  nodes : ∃ layers, c.nodes[0]? = some ⟨o.objectType, none, layers⟩ ∧
    List.Forall₂ (HoldsLayer c) o.layers layers ∧
    ∀ (k : Nat) s, o.statements[k]? = some s →
      ∃ node : Nat, (layers.flatMap c.childrenOf)[k]? = some node ∧
        c.nodes[node]? = some ⟨s.label, some k, []⟩ ∧
        c.meshes[k]? = some ⟨s.label, 2 * k, 2 * k + 1, some k⟩
  nodeCount : c.nodes.length = 1 + o.layers.length + o.statementCount
  meshCount : c.meshes.length = o.statementCount
  materialCount : c.materials = o.statementCount
  accessorCount : c.accessors.length = 2 * o.statementCount

end Glb

/-- A document draws the `k`-th body with a geometry and in a material: the `k`-th node with a mesh
    is that of the body, and has the `k`-th mesh.  This has the `k`-th pair of accessors and the
    `k`-th material.  The accessors are those of the geometry, and lead to its words. -/
structure Gltf.Draws (d : Gltf) (buffer : List UInt8) (k : Nat) (node : BodyNode)
    (g : SceneGeometry) (m : SceneMaterial) : Prop where
  drawn : ∃ translation rotation, (d.nodes.filter GltfNode.isMesh)[k]? =
    some (.mesh node.name k translation rotation)
  mesh : d.meshes[k]? = some
    { name := node.name, positions := 2 * k, indices := 2 * k + 1, material := some k }
  positions : ∃ low high v, d.accessors[2 * k]? = some (.positions (2 * k) g.vertexCount low high) ∧
    d.views[2 * k]? = some v ∧ Glb.HoldsWords buffer v g.positionWords
  indices : ∃ v, d.accessors[2 * k + 1]? = some (.indices (2 * k + 1) g.indices.values.length) ∧
    d.views[2 * k + 1]? = some v ∧ Glb.HoldsWords buffer v g.indices.values
  material : d.materials[k]? = some (Gltf.materialOf m)

namespace Scene

open Glb (Complete HoldsLayer exportedOf)
open Gltf (contentsOf drawnBefore drawnOf lastIdx? layersFrom layersOf)

variable {o : Object} {block k : Nat} {settings : Settings} {scene : Scene} {meshes : List Mesh}

/-! ## Geometries -/

theorem isExported_ofMesh {shape : Shape} {p : ShapeSpec} {m : Mesh} (uuid : String)
    (generated : Mesh.ofSpec shape p = .ok m) : (SceneGeometry.ofMesh uuid m).isExported := by
  obtain ⟨vertices, corners⟩ := Mesh.ne_nil_of_ofSpec generated
  rw [SceneGeometry.isExported, vertexCount_ofMesh]
  simp [SceneGeometry.ofMesh, vertices, corners]

theorem exportedOf_ofMeshes (block : Nat)
    (generated : o.statements.mapM (fun s => Mesh.ofStatement s settings.mesh) = .ok meshes) :
    exportedOf (ofMeshes o block meshes) = (ofMeshes o block meshes).geometries := by
  rw [exportedOf, List.filter_eq_self]
  intro g hg
  obtain ⟨i, hi⟩ := List.getElem?_of_mem hg
  obtain ⟨s, hs⟩ : ∃ s, o.statements[i]? = some s := by
    have inside : i < meshes.length := by
      simpa [ofMeshes, geometriesFrom] using lt_length_of_getElem? hi
    rw [length_of_mapM_ok generated] at inside
    exact ⟨_, List.getElem?_eq_getElem inside⟩
  obtain ⟨m, hm, own⟩ := getElem?_of_mapM_ok generated hs
  rw [getElem?_geometries o block hm] at hi
  rw [← Option.some.inj hi]
  exact isExported_ofMesh _ own

/-! ## Bodies -/

theorem lastIdx?_geometryId (distinct : (ofMeshes o block meshes).uuids.Nodup)
    (hk : k < meshes.length) :
    lastIdx? (·.uuid == geometryId o block k) (ofMeshes o block meshes).geometries = some k := by
  have listed := getElem?_geometries o block (List.getElem?_eq_getElem hk)
  have found := lastIdx?_of_onlyAt listed (by simp)
    (onlyAt_of_nodup (nodup_geometries distinct) listed)
  have uuid : (SceneGeometry.ofMesh (geometryId o block k) meshes[k]).uuid = geometryId o block k :=
    rfl
  rwa [uuid] at found

theorem lastIdx?_materialId (distinct : (ofMeshes o block meshes).uuids.Nodup) {s : Statement}
    (hs : o.statements[k]? = some s) :
    lastIdx? (·.uuid == materialId o block k) (ofMeshes o block meshes).materials = some k := by
  have listed : (ofMeshes o block meshes).materials[k]? =
      some (.ofMaterial (materialId o block k) s.material) := by
    rw [ofMeshes, getElem?_materialsFrom, hs, Nat.zero_add, Option.map_some]
  have found := lastIdx?_of_onlyAt listed (by simp)
    (onlyAt_of_nodup (nodup_materials distinct) listed)
  have uuid : (SceneMaterial.ofMaterial (materialId o block k) s.material).uuid =
      materialId o block k := rfl
  rwa [uuid] at found

/-- All bodies are drawn, with the geometries of their own numbers. -/
theorem filterMap_lastIdx? (distinct : (ofMeshes o block meshes).uuids.Nodup) {ss : List Statement}
    (enough : k + ss.length ≤ meshes.length) :
    (bodyNodesFrom o block k ss).filterMap (fun node : BodyNode =>
        (lastIdx? (·.uuid == node.geometry) (ofMeshes o block meshes).geometries).map
          fun i => (⟨node, i⟩ : Gltf.Drawn)) =
      (ss.zipIdx k).map fun (s, i) => ⟨bodyNode o block i s, i⟩ := by
  rw [bodyNodesFrom, List.filterMap_map, ← List.filterMap_eq_map]
  refine List.filterMap_congr ?_
  rintro ⟨s, i⟩ listed
  have inside : i < meshes.length := by
    have := List.mem_zipIdx listed
    omega
  simp [bodyNode, lastIdx?_geometryId distinct inside]

theorem drawnIn_ofMeshes (distinct : (ofMeshes o block meshes).uuids.Nodup)
    (enough : meshes.length = o.statementCount) :
    Gltf.drawnIn (ofMeshes o block meshes) (ofMeshes o block meshes).geometries =
      o.statements.zipIdx.map fun (s, i) => ⟨bodyNode o block i s, i⟩ := by
  rw [Gltf.drawnIn_eq, meshes_ofMeshes]
  refine filterMap_lastIdx? distinct ?_
  rw [enough, Nat.zero_add]
  rfl

theorem drawnOf_layerNode (distinct : (ofMeshes o block meshes).uuids.Nodup) {l : Layer}
    (enough : k + l.statements.length ≤ meshes.length) :
    drawnOf (ofMeshes o block meshes).geometries (layerNode o block k l) =
      (l.statements.zipIdx k).map fun (s, i) => ⟨bodyNode o block i s, i⟩ :=
  filterMap_lastIdx? distinct enough

/-! ## Layers -/

theorem getElem?_children_ofMeshes (o : Object) (block : Nat) (meshes : List Mesh) {j : Nat}
    {l : Layer} (hl : o.layers[j]? = some l) :
    (ofMeshes o block meshes).root.children[j]? =
      some (layerNode o block (joinedBefore (·.statements) o.layers j) l) := by
  rw [← Nat.zero_add (joinedBefore (·.statements) o.layers j)]
  exact getElem?_layerNodesFrom hl

/-- The statements of a layer are drawn under the numbers that they have among all statements. -/
theorem drawnOf_children (distinct : (ofMeshes o block meshes).uuids.Nodup)
    (enough : meshes.length = o.statementCount) {j : Nat} {l : Layer}
    (hl : o.layers[j]? = some l) :
    drawnOf (ofMeshes o block meshes).geometries
        (layerNode o block (joinedBefore (·.statements) o.layers j) l) =
      (l.statements.zipIdx (joinedBefore (·.statements) o.layers j)).map fun (s, i) =>
        ⟨bodyNode o block i s, i⟩ := by
  refine drawnOf_layerNode distinct ?_
  rw [← joinedBefore_succ _ hl, enough]
  exact joinedBefore_le_length _ _ _

theorem map_length_drawnOf (distinct : (ofMeshes o block meshes).uuids.Nodup)
    (enough : meshes.length = o.statementCount) :
    (ofMeshes o block meshes).root.children.map
        (fun l => (drawnOf (ofMeshes o block meshes).geometries l).length) =
      o.layers.map (·.statements.length) := by
  have same : (ofMeshes o block meshes).root.children.length = o.layers.length :=
    (forall₂_layerNodesFrom o.layers).length_eq.symm
  rw [map_eq_map_iff_forall₂]
  refine forall₂_of_getElem? same fun j node l hnode hl => ?_
  rw [getElem?_children_ofMeshes o block meshes hl] at hnode
  rw [← Option.some.inj hnode, drawnOf_children distinct enough hl, List.length_map,
    List.length_zipIdx]

theorem drawnBefore_ofMeshes (distinct : (ofMeshes o block meshes).uuids.Nodup)
    (enough : meshes.length = o.statementCount) (j : Nat) :
    drawnBefore (ofMeshes o block meshes) (ofMeshes o block meshes).geometries j =
      joinedBefore (·.statements) o.layers j :=
  joinedBefore_congr (map_length_drawnOf distinct enough) j

theorem length_drawnIn_ofMeshes (distinct : (ofMeshes o block meshes).uuids.Nodup)
    (enough : meshes.length = o.statementCount) :
    (Gltf.drawnIn (ofMeshes o block meshes) (ofMeshes o block meshes).geometries).length =
      o.statementCount := by
  rw [drawnIn_ofMeshes distinct enough, List.length_map, List.length_zipIdx]
  rfl

/-! ## One body -/

/-- Every body of a scene is drawn with what all lookups find for it. -/
theorem draws_of_resolves (h : ofObject o block settings = .ok scene) (distinct : scene.uuids.Nodup)
    {node : BodyNode} (hnode : scene.meshes[k]? = some node) {g : SceneGeometry}
    {m : SceneMaterial} (resolves : Resolves scene k node g m) :
    Gltf.Draws (Gltf.ofScene scene (exportedOf scene)) ((exportedOf scene).flatMap (·.bytes)) k
      node g m := by
  obtain ⟨meshes, generated, rfl⟩ := ofObject_eq_ok h
  have enough : meshes.length = o.statementCount := length_of_mapM_ok generated
  have listed : (Gltf.drawnIn (ofMeshes o block meshes) (ofMeshes o block meshes).geometries)[k]? =
      some ⟨node, k⟩ := by
    rw [meshes_ofMeshes, getElem?_bodyNodesFrom, Nat.zero_add] at hnode
    obtain ⟨s, hs, rfl⟩ := Option.map_eq_some_iff.mp hnode
    rw [drawnIn_ofMeshes distinct enough, getElem?_map_zipIdx, hs, Nat.zero_add, Option.map_some]
  have views := Gltf.holdsWords_views resolves.geometry
  rw [exportedOf_ofMeshes block generated]
  exact
    { drawn := by
        rw [Gltf.filter_isMesh_nodes, getElem?_map_zipIdx, listed, Nat.zero_add]
        exact ⟨_, _, rfl⟩
      mesh := by
        rw [Gltf.meshes_ofScene, List.getElem?_map, listed, Option.map_some, Gltf.meshOf,
          resolves.lastMaterial]
      positions := by
        obtain ⟨v, viewed, holds⟩ := views.1
        exact ⟨_, _, v, Gltf.getElem?_accessors resolves.geometry (i := 0) (by decide), viewed,
          holds⟩
      indices := by
        obtain ⟨v, viewed, holds⟩ := views.2
        exact ⟨v, Gltf.getElem?_accessors resolves.geometry (i := 1) (by decide), viewed, holds⟩
      material := by
        rw [Gltf.ofScene, List.getElem?_map, resolves.material, Option.map_some] }

/-! ## The document -/

theorem holdsLayer_ofMeshes (distinct : (ofMeshes o block meshes).uuids.Nodup)
    (enough : meshes.length = o.statementCount) (grouped : ∀ l ∈ o.layers, l.statements ≠ []) :
    List.Forall₂
      (HoldsLayer (contentsOf (ofMeshes o block meshes) (ofMeshes o block meshes).geometries))
      o.layers
      (layersFrom 1 (layersOf (ofMeshes o block meshes) (ofMeshes o block meshes).geometries)) := by
  refine forall₂_of_getElem? ?_ fun j l node hl hnode => ?_
  · rw [Gltf.length_layersFrom, layersOf, List.length_map]
    exact (forall₂_layerNodesFrom o.layers).length_eq
  · have child := getElem?_children_ofMeshes o block meshes hl
    have drawn := congrArg List.length (drawnOf_children distinct enough hl)
    rw [List.length_map, List.length_zipIdx] at drawn
    rw [Gltf.getElem?_layerNumbers child] at hnode
    rw [← Option.some.inj hnode]
    refine ⟨_, Gltf.getElem?_nodes_layer child, ?_, ?_⟩
    · rw [← List.length_pos_iff, List.length_range', drawn]
      exact List.length_pos_iff.mpr (grouped l (List.mem_of_getElem? hl))
    · rw [List.length_range', drawn]

theorem complete_ofMeshes (distinct : (ofMeshes o block meshes).uuids.Nodup)
    (enough : meshes.length = o.statementCount) (grouped : ∀ l ∈ o.layers, l.statements ≠ []) :
    Complete o (contentsOf (ofMeshes o block meshes) (ofMeshes o block meshes).geometries) where
  nodes := by
    have layers := holdsLayer_ofMeshes distinct enough grouped
    refine ⟨_, Gltf.getElem?_nodes_zero .., layers, fun k s hs => ?_⟩
    obtain ⟨j, l, i, hl, hi, rfl⟩ := exists_joinedBefore hs
    have child := getElem?_children_ofMeshes o block meshes hl
    have drawn : (drawnOf (ofMeshes o block meshes).geometries
        (layerNode o block (joinedBefore (·.statements) o.layers j) l))[i]? =
          some ⟨bodyNode o block (joinedBefore (·.statements) o.layers j + i) s,
            joinedBefore (·.statements) o.layers j + i⟩ := by
      rw [drawnOf_children distinct enough hl, getElem?_map_zipIdx, hi, Option.map_some]
    have node := Gltf.getElem?_nodes_body child drawn
    have mesh := Gltf.getElem?_meshes child drawn
    have number := Gltf.getElem?_childrenOf child drawn
    have material := lastIdx?_materialId distinct hs
    rw [drawnBefore_ofMeshes distinct enough] at node mesh number
    refine ⟨_, number, node, ?_⟩
    rw [mesh, Glb.MeshEntry.ofMesh, Gltf.meshOf]
    simp only [bodyNode, material]
  nodeCount := by
    have drawn := length_drawnIn_ofMeshes distinct enough
    have layers : (ofMeshes o block meshes).root.children.length = o.layers.length :=
      (forall₂_layerNodesFrom o.layers).length_eq.symm
    rw [Gltf.drawnIn] at drawn
    rw [Gltf.length_nodes, Gltf.length_nodesFrom, layersOf, List.length_map, List.flatMap_map,
      layers, drawn]
    omega
  meshCount := by
    rw [contentsOf, Glb.Contents.ofGltf, List.length_map, Gltf.meshes_ofScene, List.length_map]
    exact length_drawnIn_ofMeshes distinct enough
  materialCount := by
    rw [contentsOf, Glb.Contents.ofGltf, Gltf.ofScene, List.length_map, ofMeshes, materialsFrom,
      List.length_map, List.length_zipIdx]
    rfl
  accessorCount := by
    have geometries : (ofMeshes o block meshes).geometries.length = o.statementCount := by
      rw [ofMeshes, geometriesFrom, List.length_map, List.length_zipIdx, enough]
    rw [← geometries]
    exact (Gltf.laidOut_ofScene _ _).accessors

end Scene

end LayeredScene
