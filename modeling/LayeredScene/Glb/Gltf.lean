import LayeredScene.Glb.Rotation
import LayeredScene.Json.Basic
import LayeredScene.Numeric.Width

/-! # glTF documents

The part of a glTF document that scenes need.  All references are indices into the lists of the
document.  As JSON, the keys of every object are in alphabetical order, and every number that is a
single is written as the double it is equal to. -/

namespace LayeredScene

inductive ViewTarget where
  | vertices
  | indices
deriving DecidableEq

structure BufferView where
  offset : Nat
  length : Nat
  target : ViewTarget
deriving DecidableEq

inductive Accessor where
  /-- Positions of vertices, with their least and greatest coordinates. -/
  | positions (view count : Nat) (low high : Triple Float32)
  | indices (view count : Nat)
deriving DecidableEq

structure GltfMesh where
  name : String
  positions : Nat
  indices : Nat
  material : Option Nat
deriving DecidableEq

structure GltfMaterial where
  name : String
  color : Triple Float32
  opacity : Float32
  metalness : Float32
  roughness : Float32
  transparent : Bool
deriving DecidableEq

inductive GltfNode where
  | root (name : String) (children : List Nat) (objectType : String) (anatomical : Bool)
  | layer (name : String) (children : List Nat) (layer : String) (toggleable : Bool)
  | mesh (name : String) (mesh : Nat) (translation : Triple Float32) (rotation : Quaternion)
deriving DecidableEq

/-- A glTF document.  Node 0 is the root. -/
structure Gltf where
  sceneName : String
  generator : String
  nodes : List GltfNode
  meshes : List GltfMesh
  accessors : List Accessor
  views : List BufferView
  bufferLength : Nat
  materials : List GltfMaterial
deriving DecidableEq

namespace Gltf

def real (x : Float32) : Json := .double (widen x)

def reals (xs : List Float32) : Json := .list (xs.map real)

def nats (ns : List Nat) : Json := .list (ns.map .nat)

def viewJson (v : BufferView) : Json :=
  .object
    [("buffer", .nat 0), ("byteLength", .nat v.length), ("byteOffset", .nat v.offset),
     ("target", .nat (match v.target with | .vertices => 34962 | .indices => 34963))]

def accessorJson : Accessor → Json
  | .positions view count low high =>
    .object
      [("bufferView", .nat view), ("byteOffset", .nat 0), ("componentType", .nat 5126),
       ("count", .nat count), ("max", reals high.toList), ("min", reals low.toList),
       ("type", .text "VEC3")]
  | .indices view count =>
    .object
      [("bufferView", .nat view), ("byteOffset", .nat 0), ("componentType", .nat 5125),
       ("count", .nat count), ("type", .text "SCALAR")]

def meshJson (m : GltfMesh) : Json :=
  .object
    [("name", .text m.name),
     ("primitives", .list [.object
       ([("attributes", .object [("POSITION", .nat m.positions)]), ("indices", .nat m.indices)] ++
        m.material.toList.map fun k => ("material", .nat k))])]

def materialJson (m : GltfMaterial) : Json :=
  .object
    [("alphaMode", .text (if m.transparent then "BLEND" else "OPAQUE")),
     ("name", .text m.name),
     ("pbrMetallicRoughness", .object
       [("baseColorFactor", reals (m.color.toList ++ [m.opacity])),
        ("metallicFactor", real m.metalness),
        ("roughnessFactor", real m.roughness)])]

def nodeJson : GltfNode → Json
  | .root name children objectType anatomical =>
    .object
      [("children", nats children),
       ("extras", .object [("anatomical", .bool anatomical), ("objectType", .text objectType)]),
       ("name", .text name)]
  | .layer name children layer toggleable =>
    .object
      [("children", nats children),
       ("extras", .object [("layer", .text layer), ("toggleable", .bool toggleable)]),
       ("name", .text name)]
  | .mesh name mesh translation rotation =>
    .object
      [("mesh", .nat mesh), ("name", .text name), ("rotation", reals rotation.toList),
       ("translation", reals translation.toList)]

def toJson (g : Gltf) : Json :=
  .object
    [("accessors", .list (g.accessors.map accessorJson)),
     ("asset", .object [("generator", .text g.generator), ("version", .text "2.0")]),
     ("bufferViews", .list (g.views.map viewJson)),
     ("buffers", .list [.object [("byteLength", .nat g.bufferLength)]]),
     ("materials", .list (g.materials.map materialJson)),
     ("meshes", .list (g.meshes.map meshJson)),
     ("nodes", .list (g.nodes.map nodeJson)),
     ("scene", .nat 0),
     ("scenes", .list [.object [("name", .text g.sceneName), ("nodes", nats [0])]])]

end Gltf

end LayeredScene
