import LayeredScene.Glb.Gltf
import LayeredScene.Glb.Color
import LayeredScene.Mesh.Basic
import LayeredScene.Scene.OfObject

/-! # The glTF document of a scene

A geometry is exported if it has a vertex and an index.  The exported geometries lie in the buffer
one after the other, the positions of each before its indices, and each has two buffer views and two
accessors.  The root node has a child per layer, and a layer node has a child per body whose
geometry is exported; the nodes of the bodies of a layer come right before that of the layer.  Of
several resources with the same identifier the last one counts. -/

namespace LayeredScene

/-- Does the geometry have a vertex and an index? -/
def SceneGeometry.isExported (g : SceneGeometry) : Bool :=
  g.vertexCount != 0 && !g.indices.values.isEmpty

/-- The bits of a number; every result that is not a number has the same ones. -/
def bitsOfSingle (x : Float32) : UInt32 :=
  if x.isNaN then 0xFFC00000 else x.toBits

def singleBytes (xs : List Float32) : List UInt8 :=
  xs.flatMap fun x => littleEndian32 (bitsOfSingle x)

def indexBytes (is : List UInt32) : List UInt8 :=
  is.flatMap littleEndian32

def SceneGeometry.bytes (g : SceneGeometry) : List UInt8 :=
  singleBytes g.positions.values ++ indexBytes g.indices.values

def wholeTriples : List Float32 → List (Triple Float32)
  | x :: y :: z :: rest => ⟨x, y, z⟩ :: wholeTriples rest
  | _ => []

def greatestSingle : Float32 := Float32.ofBits 0x7F7FFFFF

def extentOf (vs : List (Triple Float32)) : Triple Float32 × Triple Float32 :=
  vs.foldl (fun (low, high) v => (low.zipWith lesser v, high.zipWith greater v))
    (.splat greatestSingle, .splat (-greatestSingle))

namespace Gltf

/-- The buffer views of geometries that lie in the buffer from an offset on. -/
def viewsFrom (offset : Nat) : List SceneGeometry → List BufferView
  | [] => []
  | g :: gs =>
    let positions := 4 * g.positions.values.length
    let indices := 4 * g.indices.values.length
    ⟨offset, positions, .vertices⟩ :: ⟨offset + positions, indices, .indices⟩ ::
      viewsFrom (offset + positions + indices) gs

def accessorsOf (g : SceneGeometry) (k : Nat) : List Accessor :=
  let (low, high) := extentOf (wholeTriples g.positions.values)
  [.positions (2 * k) g.vertexCount low high, .indices (2 * k + 1) g.indices.values.length]

/-- The index of the last element with a property. -/
def lastIdx? {α : Type} (p : α → Bool) (xs : List α) : Option Nat :=
  ((xs.zipIdx.filter (p ·.1)).getLast?).map (·.2)

/-- A mesh node with the number of its geometry among the exported ones. -/
structure Drawn where
  node : BodyNode
  geometry : Nat

def drawnOf (exported : List SceneGeometry) (l : LayerNode) : List Drawn :=
  l.children.filterMap fun node =>
    (lastIdx? (·.uuid == node.geometry) exported).map fun k => ⟨node, k⟩

def meshOf (materials : List SceneMaterial) (d : Drawn) : GltfMesh :=
  { name := d.node.name
    positions := 2 * d.geometry
    indices := 2 * d.geometry + 1
    material := lastIdx? (·.uuid == d.node.material) materials }

/-- The node of a drawn node whose mesh has a given number. -/
def nodeOf (d : Drawn) (mesh : Nat) : GltfNode :=
  .mesh d.node.name mesh (d.node.transform.position.map narrow)
    (.ofAngles (d.node.transform.rotation.map narrow))

/-- The nodes of layers, from given numbers for the next node and the next mesh on. -/
def nodesFrom (node mesh : Nat) : List (LayerNode × List Drawn) → List GltfNode
  | [] => []
  | (l, drawn) :: rest =>
    (drawn.zipIdx mesh).map (fun (d, k) => nodeOf d k) ++
      .layer l.name (List.range' node drawn.length) l.info.layer l.info.toggleable ::
      nodesFrom (node + drawn.length + 1) (mesh + drawn.length) rest

/-- The numbers of the layer nodes, from a given number for the next node on. -/
def layersFrom (node : Nat) : List (LayerNode × List Drawn) → List Nat
  | [] => []
  | (_, drawn) :: rest => (node + drawn.length) :: layersFrom (node + drawn.length + 1) rest

/-- The material of a resource; a colour that cannot be read is a medium grey. -/
def materialOf (m : SceneMaterial) : GltfMaterial :=
  { name := m.name
    color := (hexColor? m.color).getD (.splat 0.5)
    opacity := m.opacity
    metalness := m.metalness
    roughness := m.roughness
    transparent := m.transparent }

def ofScene (s : Scene) (exported : List SceneGeometry) : Gltf :=
  let layers := s.root.children.map fun l => (l, drawnOf exported l)
  { sceneName := s.root.name
    generator := Scene.maker
    nodes :=
      .root s.root.name (layersFrom 1 layers) s.header.objectType s.header.anatomical ::
      nodesFrom 1 0 layers
    meshes := layers.flatMap fun (_, drawn) => drawn.map (meshOf s.materials)
    accessors := exported.zipIdx.flatMap fun (g, k) => accessorsOf g k
    views := viewsFrom 0 exported
    bufferLength := (exported.flatMap (·.bytes)).length
    materials := s.materials.map materialOf }

end Gltf

end LayeredScene
