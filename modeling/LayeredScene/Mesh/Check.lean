import LayeredScene.Mesh.Basic

/-! # Checking meshes

What makes a mesh sound: vertices, indices that point to them, faces whose corners differ, and
coordinates that are finite numbers.  Indices are words, and are compared with the number of
vertices as a word. -/

namespace LayeredScene

inductive MeshIssue where
  | noVertices
  /-- Indices beyond the vertices; the first few of them. -/
  | outOfRange (vertexCount : UInt32) (indices : List UInt32)
  | repeatedCorner
  | notFinite
deriving DecidableEq

def MeshIssue.message : MeshIssue → String
  | noVertices => "Geometry has no vertices"
  | outOfRange vertexCount indices =>
    "Indices out of range (vertex_count=" ++ toString vertexCount.toNat ++ "): [" ++
      ", ".intercalate (indices.map fun i => toString i.toNat) ++ "]"
  | repeatedCorner => "Some faces repeat a vertex index"
  | notFinite => "Some vertex coordinates are not finite"

namespace Mesh

def indicesInRange (m : Mesh) : Bool :=
  let count := UInt32.ofNat m.vertices.length
  m.faces.all fun f => f.indices.all fun i => i < count

def cornersDiffer (m : Mesh) : Bool :=
  m.faces.all fun f => decide f.indices.Nodup

def isFinite (m : Mesh) : Bool :=
  m.vertices.all fun v => v.all Float32.isFinite

def dimensions (m : Mesh) : Triple Float32 :=
  match m.bounds with
  | none => .splat 0
  | some (low, high) => high.zipWith (· - ·) low

/-- Is the extent as expected, up to a tolerance? -/
def hasDimensions (m : Mesh) (expected : Triple Float32) (tolerance : Float32) : Bool :=
  let d := (m.dimensions.zipWith (· - ·) expected).map Float32.abs
  greater d.x (greater d.y d.z) < tolerance

def issues (m : Mesh) : List MeshIssue :=
  let count := UInt32.ofNat m.vertices.length
  let strays := (m.faces.flatMap (·.indices)).filter fun i => count ≤ i
  (if m.vertices.isEmpty then [.noVertices] else []) ++
  (if m.indicesInRange then [] else [.outOfRange count (strays.take 5)]) ++
  (if m.cornersDiffer then [] else [.repeatedCorner]) ++
  (if m.isFinite then [] else [.notFinite])

end Mesh

end LayeredScene
