import LayeredScene.Proofs.Scene.Placing

/-! # Scenes show objects statement by statement

`scene_mirrors_object` puts the parts of a scene beside those of its object: a layer node for every
layer, and for the `k`-th statement the `k`-th geometry, the `k`-th material and, counted across all
layers, the `k`-th node.
-/

namespace LayeredScene.Scene

variable {o : Object} {block k : Nat}

/-! ## The `i`-th parts -/

theorem getElem?_geometriesFrom (ms : List Mesh) (i : Nat) :
    (geometriesFrom o block k ms)[i]? =
      ms[i]?.map fun m => .ofMesh (geometryId o block (k + i)) m :=
  getElem?_map_zipIdx ..

theorem getElem?_materialsFrom (ss : List Statement) (i : Nat) :
    (materialsFrom o block k ss)[i]? =
      ss[i]?.map fun s => .ofMaterial (materialId o block (k + i)) s.material :=
  getElem?_map_zipIdx ..

theorem getElem?_bodyNodesFrom (ss : List Statement) (i : Nat) :
    (bodyNodesFrom o block k ss)[i]? = ss[i]?.map fun s => bodyNode o block (k + i) s :=
  getElem?_map_zipIdx ..

/-! ## Layers -/

/-- A layer node is for its layer: it has its name and a child per statement, and can be shown and
    hidden if the layers of the object can. -/
structure IsNodeOf (o : Object) (l : Layer) (n : LayerNode) : Prop where
  name : n.name = l.name
  children : n.children.length = l.statements.length
  toggleable : n.info.toggleable = o.isComposite

theorem forall₂_layerNodesFrom (ls : List Layer) :
    List.Forall₂ (IsNodeOf o) ls (layerNodesFrom o block k ls) := by
  induction ls generalizing k with
  | nil => exact .nil
  | cons l ls ih => exact .cons ⟨rfl, length_bodyNodesFrom l.statements, rfl⟩ ih

theorem forall₂_isNodeOf {settings : Settings} {scene : Scene}
    (h : ofObject o block settings = .ok scene) :
    List.Forall₂ (IsNodeOf o) o.layers scene.root.children := by
  obtain ⟨meshes, -, rfl⟩ := ofObject_eq_ok h
  exact forall₂_layerNodesFrom o.layers

/-! ## Statements -/

/-- The scene shows a statement as its `k`-th one: the `k`-th geometry has the mesh that is
    generated for it, the `k`-th material is its own, and the `k`-th node refers to both. -/
structure Shows (settings : Settings) (scene : Scene) (k : Nat) (s : Statement) (g : SceneGeometry)
    (m : SceneMaterial) (n : BodyNode) (mesh : Mesh) : Prop where
  geometry : scene.geometries[k]? = some g
  material : scene.materials[k]? = some m
  node : scene.meshes[k]? = some n
  node_geometry : n.geometry = g.uuid
  node_material : n.material = m.uuid
  label : n.name = s.label
  position : n.transform.position = s.position
  rotation : n.transform.rotation = s.rotation
  scale : n.transform.scale = .splat 1
  generated : Mesh.ofSpec s.shape (.ofStatement s settings.mesh) = .ok mesh
  positions : g.positions.values = mesh.positions
  corners : g.indices.values = mesh.corners
  ofMaterial : m = .ofMaterial m.uuid s.material

theorem shows_ofMeshes {settings : Settings} {meshes : List Mesh}
    (generated : o.statements.mapM (fun s => Mesh.ofStatement s settings.mesh) = .ok meshes)
    {s : Statement} (hs : o.statements[k]? = some s) :
    ∃ g m n mesh, Shows settings (ofMeshes o block meshes) k s g m n mesh := by
  obtain ⟨mesh, hmesh, own⟩ := getElem?_of_mapM_ok generated hs
  -- The numbers of the parts start from zero.
  refine ⟨.ofMesh (geometryId o block (0 + k)) mesh,
    .ofMaterial (materialId o block (0 + k)) s.material, bodyNode o block (0 + k) s, mesh, ?_⟩
  exact
    { geometry := by simp only [ofMeshes, getElem?_geometriesFrom, hmesh, Option.map_some]
      material := by simp only [ofMeshes, getElem?_materialsFrom, hs, Option.map_some]
      node := by rw [meshes_ofMeshes, getElem?_bodyNodesFrom, hs, Option.map_some]
      node_geometry := rfl
      node_material := rfl
      label := rfl
      position := rfl
      rotation := rfl
      scale := rfl
      generated := own
      positions := rfl
      corners := rfl
      ofMaterial := rfl }

end LayeredScene.Scene
