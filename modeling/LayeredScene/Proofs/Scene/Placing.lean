import LayeredScene.Scene.OfObject
import LayeredScene.Proofs.Positions
import LayeredScene.Proofs.Traversal

/-! # The scene of an object mirrors its statements

The meshes of an object are generated for all statements at once and then handed out layer by layer.
The main lemma, `placeLayers_append`, says that every layer takes exactly the meshes of its own
statements: those that are left after a layer are those of the layers behind it, so that the number
of a statement and the mesh that is next stay in step.  What follows from it is that the `k`-th
geometry, material and node all belong to the `k`-th statement.
-/

namespace LayeredScene.Scene

/-! ## Generating -/

/-- Waiting for a task is making its mesh, so that it makes no difference whether there are tasks. -/
theorem generateAll_eq (statements : List Statement) (settings : Settings) :
    generateAll statements settings =
      statements.mapM fun s => Mesh.ofStatement s settings.mesh := by
  unfold generateAll
  split
  · exact List.mapM_map ..
  · rfl

/-! ## What should be placed -/

/-- The geometries of meshes, of which the first has a given number. -/
def geometriesFrom (o : Object) (block k : Nat) (meshes : List Mesh) : List SceneGeometry :=
  (meshes.zipIdx k).map fun (m, i) => .ofMesh (geometryId o block i) m

def materialsFrom (o : Object) (block k : Nat) (ss : List Statement) : List SceneMaterial :=
  (ss.zipIdx k).map fun (s, i) => .ofMaterial (materialId o block i) s.material

def bodyNodesFrom (o : Object) (block k : Nat) (ss : List Statement) : List BodyNode :=
  (ss.zipIdx k).map fun (s, i) => bodyNode o block i s

def layerNode (o : Object) (block k : Nat) (l : Layer) : LayerNode :=
  { kind := "Group"
    name := l.name
    info := .ofName l.name o.isComposite
    children := bodyNodesFrom o block k l.statements }

def layerNodesFrom (o : Object) (block : Nat) : Nat → List Layer → List LayerNode
  | _, [] => []
  | k, l :: ls =>
    layerNode o block k l :: layerNodesFrom o block (k + l.statements.length) ls

variable {o : Object} {block k : Nat}

theorem geometriesFrom_append (ms ms' : List Mesh) :
    geometriesFrom o block k (ms ++ ms') =
      geometriesFrom o block k ms ++ geometriesFrom o block (k + ms.length) ms' :=
  map_zipIdx_append ..

theorem materialsFrom_append (ss ss' : List Statement) :
    materialsFrom o block k (ss ++ ss') =
      materialsFrom o block k ss ++ materialsFrom o block (k + ss.length) ss' :=
  map_zipIdx_append ..

theorem bodyNodesFrom_append (ss ss' : List Statement) :
    bodyNodesFrom o block k (ss ++ ss') =
      bodyNodesFrom o block k ss ++ bodyNodesFrom o block (k + ss.length) ss' :=
  map_zipIdx_append ..

@[simp] theorem length_bodyNodesFrom (ss : List Statement) :
    (bodyNodesFrom o block k ss).length = ss.length := by
  simp [bodyNodesFrom]

theorem flatMap_children_layerNodesFrom (ls : List Layer) :
    (layerNodesFrom o block k ls).flatMap (·.children) =
      bodyNodesFrom o block k (ls.flatMap (·.statements)) := by
  induction ls generalizing k with
  | nil => rfl
  | cons l ls ih =>
    simp only [layerNodesFrom, List.flatMap_cons, ih, bodyNodesFrom_append]
    rfl

/-! ## What is placed -/

/-- Statements take one mesh each and leave the others. -/
theorem placeStatements_append {ss : List Statement} {ms : List Mesh}
    (enough : ms.length = ss.length) (left : List Mesh) :
    placeStatements o block k ss (ms ++ left) =
      ⟨geometriesFrom o block k ms, materialsFrom o block k ss, bodyNodesFrom o block k ss,
        left⟩ := by
  induction ss generalizing k ms with
  | nil =>
    obtain rfl := List.length_eq_zero_iff.1 enough
    rfl
  | cons s ss ih =>
    cases ms with
    | nil => cases enough
    | cons m ms =>
      -- Behind the first statement and the first mesh the others are in step again.
      rw [List.cons_append, placeStatements, ih (Nat.succ.inj enough)]
      rfl

/-- Layers take the meshes of their statements and leave the others. -/
theorem placeLayers_append {ls : List Layer} {ms : List Mesh}
    (enough : ms.length = (ls.flatMap (·.statements)).length) (left : List Mesh) :
    placeLayers o block k ls (ms ++ left) =
      ⟨geometriesFrom o block k ms, materialsFrom o block k (ls.flatMap (·.statements)),
        layerNodesFrom o block k ls, left⟩ := by
  induction ls generalizing k ms with
  | nil =>
    obtain rfl := List.length_eq_zero_iff.1 enough
    rfl
  | cons l ls ih =>
    rw [List.flatMap_cons, List.length_append] at enough
    -- The meshes of the first layer, and those of the layers behind it.
    obtain ⟨own, others, rfl, hown⟩ : ∃ own others, ms = own ++ others ∧
        own.length = l.statements.length :=
      ⟨ms.take l.statements.length, ms.drop l.statements.length,
        (List.take_append_drop _ _).symm, List.length_take_of_le (by omega)⟩
    have hothers : others.length = (ls.flatMap (·.statements)).length := by
      rw [List.length_append] at enough
      omega
    rw [placeLayers, List.append_assoc, placeStatements_append hown, length_bodyNodesFrom,
      ih hothers, geometriesFrom_append, hown, List.flatMap_cons, materialsFrom_append]
    rfl

/-! ## The scene -/

/-- The scene of an object with these meshes. -/
def ofMeshes (o : Object) (block : Nat) (meshes : List Mesh) : Scene :=
  { header :=
      { version := sceneVersion
        kind := "Object"
        generator := maker
        objectType := o.objectType
        anatomical := o.isComposite
        layerCount := o.layerCount
        statementCount := o.statementCount
        precision := o.precision }
    geometries := geometriesFrom o block 0 meshes
    materials := materialsFrom o block 0 o.statements
    root :=
      { kind := "Group", name := o.objectType, children := layerNodesFrom o block 0 o.layers } }

variable {settings : Settings} {scene : Scene}

/-- The scene of an object is that of the meshes of its statements, if all of them are made. -/
theorem ofObject_eq_map (o : Object) (block : Nat) (settings : Settings) :
    ofObject o block settings =
      ofMeshes o block <$> o.statements.mapM fun s => Mesh.ofStatement s settings.mesh := by
  rw [ofObject, generateAll_eq]
  cases generated : o.statements.mapM fun s => Mesh.ofStatement s settings.mesh with
  | error e => rfl
  | ok meshes =>
    -- There are as many meshes as statements, and nothing is left over.
    have placed : placeLayers o block 0 o.layers (meshes ++ []) = _ :=
      placeLayers_append (length_of_mapM_ok generated) []
    rw [List.append_nil] at placed
    simp only [bind, Except.bind, placed]
    rfl

/-- A scene that is made holds the meshes of the statements in order. -/
theorem ofObject_eq_ok (h : ofObject o block settings = .ok scene) :
    ∃ meshes, o.statements.mapM (fun s => Mesh.ofStatement s settings.mesh) = .ok meshes ∧
      scene = ofMeshes o block meshes := by
  rw [ofObject_eq_map] at h
  obtain ⟨meshes, generated, same⟩ := map_eq_ok h
  exact ⟨meshes, generated, same.symm⟩

theorem meshes_ofMeshes (o : Object) (block : Nat) (meshes : List Mesh) :
    (ofMeshes o block meshes).meshes = bodyNodesFrom o block 0 o.statements :=
  flatMap_children_layerNodesFrom o.layers

end LayeredScene.Scene
