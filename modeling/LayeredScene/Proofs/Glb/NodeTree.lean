import LayeredScene.Proofs.Glb.Layout

/-! # The nodes of a GLB file are a tree

The exporter numbers the nodes while it writes them: a layer node comes behind those of its bodies,
and the root, which comes first, gets the numbers of all layer nodes.  Where the bodies of a layer
start is `layerStart`, and two inductions on the layers say what stands there: what the nodes are
(`getElem?_nodesFrom`), and that no number is missing or given twice
(`perm_layersFrom_children`).  What the numbers of the document refer to follows from these.
-/

namespace LayeredScene

/-! ## Trees of nodes -/

namespace Glb

def Contents.childrenOf (c : Contents) (node : Nat) : List Nat :=
  (c.nodes[node]?.map (·.children)).getD []

def IsChild (nodes : List NodeEntry) (parent child : Nat) : Prop :=
  ∃ n, nodes[parent]? = some n ∧ child ∈ n.children

/-- The nodes are a tree with the first one as its root: every other node is among all children
    exactly once, and every node is reached from the root. -/
structure IsTree (nodes : List NodeEntry) : Prop where
  count_children : ∀ i, (nodes.flatMap (·.children)).count i =
    if 0 < i ∧ i < nodes.length then 1 else 0
  reached : ∀ i < nodes.length, Relation.ReflTransGen (IsChild nodes) 0 i

/-- No number of a document is too large for the list that it counts in. -/
structure InRange (c : Contents) : Prop where
  meshes : ∀ n ∈ c.nodes, ∀ k ∈ n.mesh, k < c.meshes.length
  accessors : ∀ m ∈ c.meshes, m.positions < c.accessors.length ∧ m.indices < c.accessors.length
  materials : ∀ m ∈ c.meshes, ∀ k ∈ m.material, k < c.materials
  views : ∀ a ∈ c.accessors, a.view < c.views.length

/-- Does a body name a geometry that is exported? -/
def draws (s : Scene) (body : BodyNode) : Bool :=
  (exportedOf s).any (·.uuid == body.geometry)

/-- A node is that of a body: it has the name of the body, and its mesh is that of an exported
    geometry which the body names. -/
def BodyAt (s : Scene) (c : Contents) (body : BodyNode) (node : Nat) : Prop :=
  ∃ mesh k g material, c.nodes[node]? = some ⟨body.name, some mesh, []⟩ ∧
    c.meshes[mesh]? = some ⟨body.name, 2 * k, 2 * k + 1, material⟩ ∧
    (exportedOf s)[k]? = some g ∧ g.uuid = body.geometry

/-- A node is that of a layer: its children are those of the bodies that are drawn, in order. -/
def LayerAt (s : Scene) (c : Contents) (l : LayerNode) (node : Nat) : Prop :=
  ∃ children, c.nodes[node]? = some ⟨l.name, none, children⟩ ∧
    List.Forall₂ (BodyAt s c) (l.children.filter (draws s)) children

/-- The nodes of a document are the tree of a scene, and its numbers lead somewhere. -/
structure NodeTree (s : Scene) (c : Contents) : Prop where
  isTree : IsTree c.nodes
  root : ∃ layers, c.nodes[0]? = some ⟨s.root.name, none, layers⟩ ∧
    List.Forall₂ (LayerAt s c) s.root.children layers
  /-- Node by node, the meshes are used in their order. -/
  meshesOnce : c.nodes.filterMap (·.mesh) = List.range c.meshes.length
  inRange : InRange c

/-- The JSON text in the first chunk of a file says this.  The length of the file does not matter,
    not even that its header has too few bits for it. -/
def Holds (file : List UInt8) (c : Contents) : Prop :=
  ∃ header text buffer, header.length = 12 ∧
    file = header ++ chunk textChunk text ++ chunk bufferChunk buffer ∧
    (value? text).bind Contents.read? = some c

end Glb

/-! ## The numbers of the nodes -/

namespace Gltf

variable {layers : List (LayerNode × List Drawn)} {j : Nat} {x : LayerNode × List Drawn}

/-- The nodes of one layer. -/
def nodesOf (node mesh : Nat) (x : LayerNode × List Drawn) : List GltfNode :=
  (x.2.zipIdx mesh).map (fun (d, k) => nodeOf d k) ++
    [.layer x.1.name (List.range' node x.2.length) x.1.info.layer x.1.info.toggleable]

theorem length_nodesOf (node mesh : Nat) (x : LayerNode × List Drawn) :
    (nodesOf node mesh x).length = x.2.length + 1 := by
  simp [nodesOf]

theorem getElem?_nodesOf_layer (node mesh : Nat) (x : LayerNode × List Drawn) :
    (nodesOf node mesh x)[x.2.length]? =
      some (.layer x.1.name (List.range' node x.2.length) x.1.info.layer x.1.info.toggleable) := by
  simp [nodesOf]

theorem getElem?_nodesOf_body (node mesh : Nat) {d : Drawn} {i : Nat} (hd : x.2[i]? = some d) :
    (nodesOf node mesh x)[i]? = some (nodeOf d (mesh + i)) := by
  have inside : i < x.2.length := lt_length_of_getElem? hd
  rw [nodesOf, List.getElem?_append_left (by simpa using inside), getElem?_map_zipIdx, hd,
    Option.map_some]

theorem nodesFrom_cons (node mesh : Nat) (x : LayerNode × List Drawn)
    (layers : List (LayerNode × List Drawn)) :
    nodesFrom node mesh (x :: layers) = nodesOf node mesh x ++
      nodesFrom (node + x.2.length + 1) (mesh + x.2.length) layers := by
  rw [nodesFrom, nodesOf, List.append_assoc]
  rfl

/-- How many nodes come before those of a layer. -/
def layerStart (layers : List (LayerNode × List Drawn)) (j : Nat) : Nat :=
  j + joinedBefore (·.2) layers j

theorem layerStart_succ_cons (x : LayerNode × List Drawn)
    (layers : List (LayerNode × List Drawn)) (j : Nat) :
    layerStart (x :: layers) (j + 1) = x.2.length + 1 + layerStart layers j := by
  simp only [layerStart, joinedBefore, List.take_succ_cons, List.flatMap_cons, List.length_append]
  omega

theorem length_layersFrom (node : Nat) (layers : List (LayerNode × List Drawn)) :
    (layersFrom node layers).length = layers.length := by
  induction layers generalizing node with
  | nil => rfl
  | cons x xs ih => rw [layersFrom, List.length_cons, ih, List.length_cons]

theorem length_nodesFrom (node mesh : Nat) (layers : List (LayerNode × List Drawn)) :
    (nodesFrom node mesh layers).length = layers.length + (layers.flatMap (·.2)).length := by
  induction layers generalizing node mesh with
  | nil => rfl
  | cons x xs ih =>
    rw [nodesFrom_cons, List.length_append, length_nodesOf, ih, List.length_cons,
      List.flatMap_cons, List.length_append]
    omega

theorem getElem?_layersFrom (node : Nat) (hj : layers[j]? = some x) :
    (layersFrom node layers)[j]? = some (node + layerStart layers j + x.2.length) := by
  induction layers generalizing node j with
  | nil => simp at hj
  | cons y ys ih =>
    rw [layersFrom]
    cases j with
    | zero =>
      cases hj
      simp [layerStart, joinedBefore]
    | succ j =>
      rw [List.getElem?_cons_succ, ih _ (by simpa using hj), layerStart_succ_cons]
      exact congrArg some (by omega)

/-- The nodes of a layer stand where it starts. -/
theorem getElem?_nodesFrom (node mesh : Nat) (hj : layers[j]? = some x) {i : Nat}
    (hi : i ≤ x.2.length) :
    (nodesFrom node mesh layers)[layerStart layers j + i]? =
      (nodesOf (node + layerStart layers j) (mesh + joinedBefore (·.2) layers j) x)[i]? := by
  induction layers generalizing node mesh j with
  | nil => simp at hj
  | cons y ys ih =>
    rw [nodesFrom_cons]
    cases j with
    | zero =>
      cases hj
      have start : layerStart (x :: ys) 0 = 0 := rfl
      have drawn : joinedBefore (·.2) (x :: ys) 0 = 0 := rfl
      rw [start, drawn, Nat.zero_add,
        List.getElem?_append_left (by rw [length_nodesOf]; omega)]
      rfl
    | succ j =>
      -- Behind the nodes of the first layer, the numbers go on from there.
      have drawn : joinedBefore (·.2) (y :: ys) (j + 1) = y.2.length + joinedBefore (·.2) ys j := by
        simp [joinedBefore]
      have start := layerStart_succ_cons y ys j
      rw [List.getElem?_append_right (by rw [length_nodesOf]; omega), length_nodesOf,
        show layerStart (y :: ys) (j + 1) + i - (y.2.length + 1) = layerStart ys j + i by omega,
        ih _ _ (by simpa using hj), start, drawn]
      simp only [Nat.add_assoc]

theorem exists_layerStart {p : Nat} (hp : p < layers.length + (layers.flatMap (·.2)).length) :
    ∃ j x i, layers[j]? = some x ∧ i ≤ x.2.length ∧ p = layerStart layers j + i := by
  induction layers generalizing p with
  | nil => exact absurd hp (Nat.not_lt_zero p)
  | cons y ys ih =>
    rw [List.length_cons, List.flatMap_cons, List.length_append] at hp
    -- The node belongs to the first layer or lies behind its nodes.
    by_cases own : p ≤ y.2.length
    · exact ⟨0, y, p, rfl, own, (Nat.zero_add p).symm⟩
    · obtain ⟨q, rfl⟩ := Nat.exists_eq_add_of_lt (Nat.lt_of_not_le own)
      obtain ⟨j, x, i, hj, hi, rfl⟩ := ih (p := q) (by omega)
      refine ⟨j + 1, x, i, by simpa using hj, hi, ?_⟩
      rw [layerStart_succ_cons]
      omega

/-- The numbers of the layer nodes and the children of all nodes are the numbers of the nodes. -/
theorem perm_layersFrom_children (node mesh : Nat) (layers : List (LayerNode × List Drawn)) :
    (layersFrom node layers ++
      (nodesFrom node mesh layers).flatMap fun n => (Glb.NodeEntry.ofNode n).children).Perm
      (List.range' node (nodesFrom node mesh layers).length) := by
  induction layers generalizing node mesh with
  | nil => exact .refl _
  | cons x xs ih =>
    -- Of the nodes of a layer only its own has children.
    have own : ((nodesOf node mesh x).flatMap fun n => (Glb.NodeEntry.ofNode n).children) =
        List.range' node x.2.length := by
      simp [nodesOf, Glb.NodeEntry.ofNode, nodeOf, List.flatMap_map]
    have numbers (count : Nat) : List.range' node (x.2.length + 1 + count) =
        List.range' node x.2.length ++
          (node + x.2.length) :: List.range' (node + x.2.length + 1) count := by
      rw [← List.range'_succ, List.range'_append_1, Nat.add_assoc, Nat.add_comm 1]
    rw [nodesFrom_cons, List.length_append, length_nodesOf, numbers, List.flatMap_append, own,
      layersFrom]
    refine (List.perm_append_comm_assoc _ _ _).trans (.append_left _ ?_)
    exact .cons _ (ih _ _)

/-! ## The nodes of a document -/

variable {s : Scene} {gs : List SceneGeometry} {l : LayerNode} {d : Drawn} {i : Nat}

def layersOf (s : Scene) (gs : List SceneGeometry) : List (LayerNode × List Drawn) :=
  s.root.children.map fun l => (l, drawnOf gs l)

def contentsOf (s : Scene) (gs : List SceneGeometry) : Glb.Contents :=
  .ofGltf (ofScene s gs)

theorem nodes_contentsOf (s : Scene) (gs : List SceneGeometry) :
    (contentsOf s gs).nodes = ⟨s.root.name, none, layersFrom 1 (layersOf s gs)⟩ ::
      (nodesFrom 1 0 (layersOf s gs)).map .ofNode := rfl

theorem getElem?_nodes_zero (s : Scene) (gs : List SceneGeometry) :
    (contentsOf s gs).nodes[0]? =
      some ⟨s.root.name, none, layersFrom 1 (layersOf s gs)⟩ := rfl

/-- How many bodies are drawn before those of a layer. -/
def drawnBefore (s : Scene) (gs : List SceneGeometry) (j : Nat) : Nat :=
  joinedBefore (drawnOf gs) s.root.children j

theorem joinedBefore_layersOf (s : Scene) (gs : List SceneGeometry) (j : Nat) :
    joinedBefore (·.2) (layersOf s gs) j = drawnBefore s gs j := by
  rw [drawnBefore, joinedBefore, joinedBefore, layersOf, ← List.map_take, List.flatMap_map]

/-- The number of the first node of a layer. -/
def firstNode (s : Scene) (gs : List SceneGeometry) (j : Nat) : Nat :=
  1 + layerStart (layersOf s gs) j

theorem getElem?_layersOf (gs : List SceneGeometry) (hl : s.root.children[j]? = some l) :
    (layersOf s gs)[j]? = some (l, drawnOf gs l) := by
  rw [layersOf, List.getElem?_map, hl, Option.map_some]

theorem getElem?_layerNumbers (hl : s.root.children[j]? = some l) :
    (layersFrom 1 (layersOf s gs))[j]? = some (firstNode s gs j + (drawnOf gs l).length) :=
  getElem?_layersFrom 1 (getElem?_layersOf gs hl)

theorem getElem?_nodes (hl : s.root.children[j]? = some l) (hi : i ≤ (drawnOf gs l).length) :
    (contentsOf s gs).nodes[firstNode s gs j + i]? =
      (nodesOf (firstNode s gs j) (drawnBefore s gs j) (l, drawnOf gs l))[i]?.map .ofNode := by
  have node := getElem?_nodesFrom 1 0 (getElem?_layersOf gs hl) hi
  rw [Nat.zero_add, joinedBefore_layersOf] at node
  rw [nodes_contentsOf, firstNode, Nat.add_assoc, Nat.add_comm 1, List.getElem?_cons_succ,
    List.getElem?_map, node, Nat.add_comm 1]

theorem getElem?_nodes_layer (hl : s.root.children[j]? = some l) :
    (contentsOf s gs).nodes[firstNode s gs j + (drawnOf gs l).length]? =
      some ⟨l.name, none, List.range' (firstNode s gs j) (drawnOf gs l).length⟩ := by
  rw [getElem?_nodes hl (Nat.le_refl _), getElem?_nodesOf_layer (x := (l, drawnOf gs l))]
  rfl

theorem getElem?_nodes_body (hl : s.root.children[j]? = some l)
    (hd : (drawnOf gs l)[i]? = some d) :
    (contentsOf s gs).nodes[firstNode s gs j + i]? =
      some ⟨d.node.name, some (drawnBefore s gs j + i), []⟩ := by
  have inside : i < (drawnOf gs l).length := lt_length_of_getElem? hd
  rw [getElem?_nodes hl (Nat.le_of_lt inside), getElem?_nodesOf_body _ _ hd]
  rfl

/-- The bodies of all layers, in their order, are the children of the layer nodes in theirs. -/
theorem getElem?_childrenOf (hl : s.root.children[j]? = some l)
    (hd : (drawnOf gs l)[i]? = some d) :
    ((layersFrom 1 (layersOf s gs)).flatMap (contentsOf s gs).childrenOf)[drawnBefore s gs j + i]? =
      some (firstNode s gs j + i) := by
  have inside : i < (drawnOf gs l).length := lt_length_of_getElem? hd
  have children {j : Nat} {l : LayerNode} (hl : s.root.children[j]? = some l) :
      (contentsOf s gs).childrenOf (firstNode s gs j + (drawnOf gs l).length) =
        List.range' (firstNode s gs j) (drawnOf gs l).length := by
    rw [Glb.Contents.childrenOf, getElem?_nodes_layer hl]
    rfl
  have lengths : (layersFrom 1 (layersOf s gs)).map
      (fun node => ((contentsOf s gs).childrenOf node).length) =
        s.root.children.map fun l => (drawnOf gs l).length := by
    rw [map_eq_map_iff_forall₂]
    refine forall₂_of_getElem? ?_ fun j node l hnode hl => ?_
    · rw [length_layersFrom, layersOf, List.length_map]
    · rw [getElem?_layerNumbers hl] at hnode
      rw [← Option.some.inj hnode, children hl, List.length_range']
  rw [drawnBefore, ← joinedBefore_congr lengths,
    getElem?_flatMap_joinedBefore (getElem?_layerNumbers hl), children hl,
    List.getElem?_range' inside, Nat.one_mul]
  rw [children hl, List.length_range']
  exact inside

theorem getElem?_meshes (hl : s.root.children[j]? = some l) (hd : (drawnOf gs l)[i]? = some d) :
    (contentsOf s gs).meshes[drawnBefore s gs j + i]? = some (.ofMesh (meshOf s.materials d)) := by
  have inside : i < (drawnOf gs l).length := lt_length_of_getElem? hd
  rw [contentsOf, Glb.Contents.ofGltf, meshes_ofScene, List.map_map, List.getElem?_map, drawnIn,
    drawnBefore, getElem?_flatMap_joinedBefore hl inside, hd]
  rfl

/-! ## The tree -/

theorem length_nodes (s : Scene) (gs : List SceneGeometry) :
    (contentsOf s gs).nodes.length = (nodesFrom 1 0 (layersOf s gs)).length + 1 := by
  rw [nodes_contentsOf, List.length_cons, List.length_map]

theorem isTree_nodes (s : Scene) (gs : List SceneGeometry) :
    Glb.IsTree (contentsOf s gs).nodes where
  count_children i := by
    have numbers := perm_layersFrom_children 1 0 (layersOf s gs)
    rw [nodes_contentsOf, List.flatMap_cons, List.flatMap_map, numbers.count_eq,
      List.count_range_1', List.length_cons, List.length_map]
    exact if_congr (by omega) rfl rfl
  reached p hp := by
    cases p with
    | zero => exact .refl
    | succ p =>
      rw [length_nodes, length_nodesFrom] at hp
      obtain ⟨j, x, i, hj, hi, rfl⟩ := exists_layerStart (Nat.lt_of_succ_lt_succ hp)
      rw [layersOf, List.getElem?_map, Option.map_eq_some_iff] at hj
      obtain ⟨l, hl, rfl⟩ := hj
      have hi : i ≤ (drawnOf gs l).length := hi
      -- The root leads to the layer node, and that to the nodes of its bodies.
      have toLayer : Relation.ReflTransGen (Glb.IsChild (contentsOf s gs).nodes) 0
          (firstNode s gs j + (drawnOf gs l).length) :=
        .single ⟨_, getElem?_nodes_zero s gs, List.mem_of_getElem? (getElem?_layerNumbers hl)⟩
      rcases Nat.lt_or_eq_of_le hi with body | rfl
      · refine toLayer.tail ⟨_, getElem?_nodes_layer hl, ?_⟩
        rw [List.mem_range'_1, firstNode]
        omega
      · rwa [firstNode, Nat.add_assoc, Nat.add_comm 1] at toLayer

/-! ## The numbers in a document -/

open Glb (BodyAt InRange LayerAt NodeTree draws exportedOf)

theorem filterMap_mesh_nodes (s : Scene) (gs : List SceneGeometry) :
    (contentsOf s gs).nodes.filterMap (·.mesh) = List.range (contentsOf s gs).meshes.length := by
  -- Only the nodes of bodies have a mesh, and those are counted through.
  have meshes : ∀ n : GltfNode, (Glb.NodeEntry.ofNode n).mesh =
      if n.isMesh then (Glb.NodeEntry.ofNode n).mesh else none := by
    intro n
    cases n <;> rfl
  have counted : (contentsOf s gs).meshes.length = (drawnIn s gs).length := by
    rw [contentsOf, Glb.Contents.ofGltf, meshes_ofScene, List.length_map, List.length_map]
  calc (contentsOf s gs).nodes.filterMap (·.mesh)
      = ((ofScene s gs).nodes.filter GltfNode.isMesh).filterMap
          fun n => (Glb.NodeEntry.ofNode n).mesh := by
        rw [List.filterMap_filter, contentsOf, Glb.Contents.ofGltf, List.filterMap_map]
        exact List.filterMap_congr fun n _ => meshes n
    _ = (drawnIn s gs).zipIdx.map (·.2) := by
        rw [filter_isMesh_nodes, List.filterMap_map, ← List.filterMap_eq_map]
        rfl
    _ = List.range (contentsOf s gs).meshes.length := by
        rw [counted, List.zipIdx_map_snd, List.range_eq_range']

theorem exists_of_mem_drawnOf (hd : d ∈ drawnOf gs l) :
    ∃ g, gs[d.geometry]? = some g ∧ g.uuid = d.node.geometry := by
  obtain ⟨body, -, named⟩ := List.mem_filterMap.mp hd
  obtain ⟨k, last, rfl⟩ := Option.map_eq_some_iff.mp named
  obtain ⟨g, hg, same⟩ := exists_of_lastIdx? last
  exact ⟨g, hg, beq_iff_eq.mp same⟩

theorem map_node_drawnOf (gs : List SceneGeometry) (l : LayerNode) :
    (drawnOf gs l).map (·.node) =
      l.children.filter fun body => gs.any (·.uuid == body.geometry) := by
  rw [drawnOf, List.map_filterMap, ← List.filterMap_eq_filter]
  refine List.filterMap_congr fun body _ => ?_
  rw [Option.guard, ← isSome_lastIdx?]
  cases lastIdx? (·.uuid == body.geometry) gs with
  | none => rfl
  | some k => rfl

theorem inRange_contentsOf (s : Scene) (gs : List SceneGeometry) : InRange (contentsOf s gs) where
  meshes n hn k hk := by
    have used : k ∈ (contentsOf s gs).nodes.filterMap (·.mesh) :=
      List.mem_filterMap.mpr ⟨n, hn, hk⟩
    rwa [filterMap_mesh_nodes, List.mem_range] at used
  accessors m hm := by
    rw [contentsOf, Glb.Contents.ofGltf, meshes_ofScene, drawnIn, List.map_map] at hm
    obtain ⟨d, hd, rfl⟩ := List.mem_map.mp hm
    obtain ⟨l, -, drawn⟩ := List.mem_flatMap.mp hd
    obtain ⟨g, hg, -⟩ := exists_of_mem_drawnOf drawn
    have inside : d.geometry < gs.length := lt_length_of_getElem? hg
    have accessors : (contentsOf s gs).accessors.length = 2 * gs.length :=
      (laidOut_ofScene s gs).accessors
    rw [accessors]
    simp only [Function.comp_apply, Glb.MeshEntry.ofMesh, meshOf]
    omega
  materials m hm k hk := by
    rw [contentsOf, Glb.Contents.ofGltf, meshes_ofScene, List.map_map] at hm
    obtain ⟨d, -, rfl⟩ := List.mem_map.mp hm
    have materials : (contentsOf s gs).materials = s.materials.length := List.length_map _
    rw [materials]
    exact lt_of_material_meshOf hk
  views a ha := by
    have laidOut : Glb.LaidOut (contentsOf s gs) _ _ := laidOut_ofScene s gs
    obtain ⟨p, hp⟩ := List.getElem?_of_mem ha
    have inside : p < (contentsOf s gs).accessors.length := lt_length_of_getElem? hp
    rw [laidOut.accessors] at inside
    rw [laidOut.view_eq hp, laidOut.views]
    exact inside

theorem bodyAt_of_getElem? (hl : s.root.children[j]? = some l)
    (hd : (drawnOf (exportedOf s) l)[i]? = some d) :
    BodyAt s (contentsOf s (exportedOf s)) d.node (firstNode s (exportedOf s) j + i) := by
  obtain ⟨g, hg, same⟩ := exists_of_mem_drawnOf (List.mem_of_getElem? hd)
  exact ⟨_, _, g, _, getElem?_nodes_body hl hd, getElem?_meshes hl hd, hg, same⟩

theorem layerAt_of_getElem? (hl : s.root.children[j]? = some l) :
    LayerAt s (contentsOf s (exportedOf s)) l
      (firstNode s (exportedOf s) j + (drawnOf (exportedOf s) l).length) := by
  refine ⟨_, getElem?_nodes_layer hl, ?_⟩
  have drawn : l.children.filter (draws s) = (drawnOf (exportedOf s) l).map (·.node) :=
    (map_node_drawnOf _ l).symm
  rw [drawn, List.forall₂_map_left_iff]
  refine forall₂_of_getElem? (by rw [List.length_range']) fun i d n hd hn => ?_
  have inside : i < (drawnOf (exportedOf s) l).length := lt_length_of_getElem? hd
  rw [List.getElem?_range' inside, Nat.one_mul] at hn
  cases hn
  exact bodyAt_of_getElem? hl hd

theorem nodeTree_contentsOf (s : Scene) : NodeTree s (contentsOf s (exportedOf s)) where
  isTree := isTree_nodes s _
  root := by
    refine ⟨_, getElem?_nodes_zero s _, forall₂_of_getElem? ?_ fun j l n hl hn => ?_⟩
    · rw [length_layersFrom, layersOf, List.length_map]
    · rw [getElem?_layerNumbers hl] at hn
      cases hn
      exact layerAt_of_getElem? hl
  meshesOnce := filterMap_mesh_nodes s _
  inRange := inRange_contentsOf s _

end Gltf

namespace Glb

theorem holds_ofScene {s : Scene} (nonempty : ofScene s ≠ []) :
    Holds (ofScene s) (Gltf.contentsOf s (exportedOf s)) := by
  have read : (value? (padded (utf8 (Gltf.ofScene s (exportedOf s)).toJson.compact))).bind
      Contents.read? = some (Gltf.contentsOf s (exportedOf s)) := by
    rw [value?_padded (Gltf.nesting_toJson_lt _)]
    exact Contents.read?_ofJson _
  rw [ofScene_eq_pack nonempty]
  exact ⟨_, _, _, rfl, rfl, read⟩

/-- The nodes of every file that is not empty are a tree.  Below the root are the layers of the
    scene, in their order, and below each of them those of its bodies that name an exported
    geometry, in theirs.  Every mesh is used by exactly one node, and no number leads out of a list.
    Nothing is asked of the scene: identifiers may be there more than once or not at all. -/
theorem nodeTree_ofScene (s : Scene) (nonempty : ofScene s ≠ []) :
    ∃ c, Holds (ofScene s) c ∧ NodeTree s c :=
  ⟨_, holds_ofScene nonempty, Gltf.nodeTree_contentsOf s⟩

/-- The shelf has a body whose geometry does not exist, two whose geometries cannot be drawn, and a
    geometry that is drawn twice. -/
theorem nodeTree_ofScene_shelf :
    ofScene shelf ≠ [] ∧ ∃ c, Holds (ofScene shelf) c ∧ NodeTree shelf c :=
  ⟨ofScene_shelf_ne_nil, nodeTree_ofScene shelf ofScene_shelf_ne_nil⟩

end Glb

end LayeredScene
