import LayeredScene.Scene.Basic
import LayeredScene.Object.Json

/-! # Scenes as JSON

A scene is an object with a header, the two lists of resources, and the root of the node tree.  A
mesh node has the parts of its transform among its own members. -/

namespace LayeredScene

namespace Transform

def record : Record (Triple Float × Triple Float × Triple Float × Unit) :=
  .cons (.required "position" Codec.double.triple) <|
  .cons (.required "rotation" Codec.double.triple) <|
  .cons (.required "scale" Codec.double.triple) .unit

def codec : Codec Transform :=
  record.codec (fun (position, rotation, scale, _) => { position, rotation, scale })
    (fun t => (t.position, t.rotation, t.scale, ()))

end Transform

namespace SceneHeader

def record : Record (Float32 × String × String × String × Bool × Nat × Nat × Precision × Unit) :=
  .cons (.required "version" .single) <|
  .cons (.required "type" .text) <|
  .cons (.required "generator" .text) <|
  .cons (.required "objectType" .text) <|
  .cons (.required "anatomical" .bool) <|
  .cons (.required "layerCount" .count) <|
  .cons (.required "statementCount" .count) <|
  .cons (.required "precision" Precision.codec) .unit

def codec : Codec SceneHeader :=
  record.codec
    (fun (version, kind, generator, objectType, anatomical, layerCount, statementCount, precision,
        _) =>
      { version, kind, generator, objectType, anatomical, layerCount, statementCount, precision })
    (fun h => (h.version, h.kind, h.generator, h.objectType, h.anatomical, h.layerCount,
      h.statementCount, h.precision, ()))

end SceneHeader

def PositionArray.codec : Codec PositionArray :=
  Record.codec
    (.cons (.required "itemSize" .word32) <|
     .cons (.required "type" .text) <|
     .cons (.required "array" Codec.single.list) <|
     .cons (.defaulted "normalized" .bool false) .unit)
    (fun (itemSize, kind, values, normalized, _) => { itemSize, kind, values, normalized })
    (fun b => (b.itemSize, b.kind, b.values, b.normalized, ()))

def IndexArray.codec : Codec IndexArray :=
  Record.codec
    (.cons (.required "type" .text) <|
     .cons (.required "array" Codec.word32.list) .unit)
    (fun (kind, values, _) => { kind, values })
    (fun b => (b.kind, b.values, ()))

namespace SceneGeometry

def attributes : Codec PositionArray :=
  Record.codec (.cons (.required "position" PositionArray.codec) .unit)
    (fun (positions, _) => positions) (fun positions => (positions, ()))

def buffers : Codec (PositionArray × IndexArray) :=
  Record.codec
    (.cons (.required "attributes" attributes) <|
     .cons (.required "index" IndexArray.codec) .unit)
    (fun (positions, indices, _) => (positions, indices))
    (fun (positions, indices) => (positions, indices, ()))

def codec : Codec SceneGeometry :=
  Record.codec
    (.cons (.required "uuid" .text) <|
     .cons (.required "type" .text) <|
     .cons (.required "name" .text) <|
     .cons (.required "data" buffers) .unit)
    (fun (uuid, kind, name, (positions, indices), _) => { uuid, kind, name, positions, indices })
    (fun g => (g.uuid, g.kind, g.name, (g.positions, g.indices), ()))

end SceneGeometry

def SceneMaterial.codec : Codec SceneMaterial :=
  Record.codec
    (.cons (.required "uuid" .text) <|
     .cons (.required "type" .text) <|
     .cons (.required "name" .text) <|
     .cons (.required "color" .text) <|
     .cons (.required "roughness" .single) <|
     .cons (.required "metalness" .single) <|
     .cons (.required "transparent" .bool) <|
     .cons (.required "opacity" .single) .unit)
    (fun (uuid, kind, name, color, roughness, metalness, transparent, opacity, _) =>
      { uuid, kind, name, color, roughness, metalness, transparent, opacity })
    (fun m => (m.uuid, m.kind, m.name, m.color, m.roughness, m.metalness, m.transparent,
      m.opacity, ()))

namespace BodyNode

/-- The members of a mesh node other than those of its transform. -/
def record : Record (String × String × String × String × Unit) :=
  .cons (.required "type" .text) <|
  .cons (.required "name" .text) <|
  .cons (.required "geometry" .text) <|
  .cons (.required "material" .text) .unit

/-- Reads the members of a mesh node.  All others have to be readable and are set aside, in reverse,
for the transform. -/
def readMembers :
    List (Option String × Draft) → record.Slots → List (Option String × Draft) →
      Except Fault (record.Slots × List (Option String × Draft))
  | [], s, others => .ok (s, others.reverse)
  | (none, _) :: _, _, _ => .error .malformed
  | (some key, d) :: rest, s, others =>
    match record.keys.idxOf? key with
    | some k =>
      match record.put k d s with
      | .ok s => readMembers rest s others
      | .error fault => .error fault
    | none =>
      match d.keep with
      | .ok _ => readMembers rest s ((some key, d) :: others)
      | .error fault => .error fault

def codec : Codec BodyNode where
  read
    | .object members ending => do
      let (s, others) ← readMembers members record.blank []
      ending.check
      let (kind, name, geometry, material, _) ← record.finish s
      let transform ← (Transform.codec.read (.object others .closed)).mapError fun _ => .mismatch
      return { kind, name, geometry, material, transform }
    | d => .error d.unfit
  write n := .object (record.write (n.kind, n.name, n.geometry, n.material, ()) ++
    Transform.record.write (n.transform.position, n.transform.rotation, n.transform.scale, ()))

end BodyNode

def LayerInfo.codec : Codec LayerInfo :=
  Record.codec
    (.cons (.required "layer" .text) <|
     .cons (.required "toggleable" .bool) <|
     .cons (.optional "depth" .word32) <|
     .cons (.optional "purpose" .text) <|
     .cons (.optional "color" .text) <|
     .cons (.optional "opacity" .single) .unit)
    (fun (layer, toggleable, depth, purpose, color, opacity, _) =>
      { layer, toggleable, depth, purpose, color, opacity })
    (fun i => (i.layer, i.toggleable, i.depth, i.purpose, i.color, i.opacity, ()))

def LayerNode.codec : Codec LayerNode :=
  Record.codec
    (.cons (.required "type" .text) <|
     .cons (.required "name" .text) <|
     .cons (.required "userData" LayerInfo.codec) <|
     .cons (.required "children" BodyNode.codec.list) .unit)
    (fun (kind, name, info, children, _) => { kind, name, info, children })
    (fun n => (n.kind, n.name, n.info, n.children, ()))

def ObjectNode.codec : Codec ObjectNode :=
  Record.codec
    (.cons (.required "type" .text) <|
     .cons (.required "name" .text) <|
     .cons (.required "children" LayerNode.codec.list) .unit)
    (fun (kind, name, children, _) => { kind, name, children })
    (fun n => (n.kind, n.name, n.children, ()))

def Scene.codec : Codec Scene :=
  Record.codec
    (.cons (.required "metadata" SceneHeader.codec) <|
     .cons (.required "geometries" SceneGeometry.codec.list) <|
     .cons (.required "materials" SceneMaterial.codec.list) <|
     .cons (.required "object" ObjectNode.codec) .unit)
    (fun (header, geometries, materials, root, _) => { header, geometries, materials, root })
    (fun s => (s.header, s.geometries, s.materials, s.root, ()))

end LayeredScene
