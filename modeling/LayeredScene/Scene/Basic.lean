import LayeredScene.Object.Basic

/-! # Scenes

A scene is what a renderer gets for one object.  Meshes and materials are resources in two flat
lists, each under an identifier; the root of the node tree has a node per layer, and a layer node
has a node per body, which refers to its resources by their identifiers. -/

namespace LayeredScene

structure Transform where
  position : Triple Float
  rotation : Triple Float
  scale : Triple Float
deriving DecidableEq

namespace Transform

def zero : Transform := ⟨.splat 0, .splat 0, .splat 0⟩

/-- At a position and rotation, without scaling. -/
def placed (position rotation : Triple Float) : Transform := ⟨position, rotation, .splat 1⟩

def identity : Transform := .placed (.splat 0) (.splat 0)

end Transform

structure SceneHeader where
  version : Float32
  kind : String
  generator : String
  objectType : String
  anatomical : Bool
  layerCount : Nat
  statementCount : Nat
  precision : Precision
deriving DecidableEq

structure PositionArray where
  itemSize : UInt32
  kind : String
  values : List Float32
  normalized : Bool
deriving DecidableEq

structure IndexArray where
  kind : String
  values : List UInt32
deriving DecidableEq

structure SceneGeometry where
  uuid : String
  kind : String
  name : String
  positions : PositionArray
  indices : IndexArray
deriving DecidableEq

structure SceneMaterial where
  uuid : String
  kind : String
  name : String
  color : String
  roughness : Float32
  metalness : Float32
  transparent : Bool
  opacity : Float32
deriving DecidableEq

structure BodyNode where
  kind : String
  name : String
  geometry : String
  material : String
  transform : Transform
deriving DecidableEq

structure LayerInfo where
  layer : String
  toggleable : Bool
  depth : Option UInt32
  purpose : Option String
  color : Option String
  opacity : Option Float32
deriving DecidableEq

structure LayerNode where
  kind : String
  name : String
  info : LayerInfo
  children : List BodyNode
deriving DecidableEq

structure ObjectNode where
  kind : String
  name : String
  children : List LayerNode
deriving DecidableEq

/-- What a renderer gets for one object. -/
structure Scene where
  header : SceneHeader
  geometries : List SceneGeometry
  materials : List SceneMaterial
  root : ObjectNode
deriving DecidableEq

namespace SceneGeometry

/-- The number of complete vertices. -/
def vertexCount (g : SceneGeometry) : Nat := g.positions.values.length / 3

/-- The number of complete triangles. -/
def triangleCount (g : SceneGeometry) : Nat := g.indices.values.length / 3

end SceneGeometry

namespace Scene

def layer? (s : Scene) (name : String) : Option LayerNode :=
  s.root.children.find? (·.name == name)

def meshes (s : Scene) : List BodyNode :=
  s.root.children.flatMap (·.children)

def geometry? (s : Scene) (uuid : String) : Option SceneGeometry :=
  s.geometries.find? (·.uuid == uuid)

def material? (s : Scene) (uuid : String) : Option SceneMaterial :=
  s.materials.find? (·.uuid == uuid)

end Scene

end LayeredScene
