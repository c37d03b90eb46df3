import LayeredScene.Scene.Basic

/-! # Checking geometries

What makes a geometry of a scene sound: complete vertices and triangles, indices that point to
vertices, and positions that are finite numbers.  The number of vertices is compared as a word. -/

namespace LayeredScene

inductive GeometryIssue where
  | positionLength (length : Nat)
  | indexLength (length : Nat)
  | outOfRange (vertexCount : UInt32)
  | notFinite
deriving DecidableEq

def GeometryIssue.message : GeometryIssue → String
  | positionLength length =>
    "Position buffer length " ++ toString length ++ " is not a multiple of 3"
  | indexLength length => "Index buffer length " ++ toString length ++ " is not a multiple of 3"
  | outOfRange vertexCount =>
    "Indices out of range (vertex_count=" ++ toString vertexCount.toNat ++ ")"
  | notFinite => "Some positions are not finite"

def SceneGeometry.issues (g : SceneGeometry) : List GeometryIssue :=
  let positions := g.positions.values
  let indices := g.indices.values
  let count := UInt32.ofNat g.vertexCount
  (if positions.length % 3 = 0 then [] else [.positionLength positions.length]) ++
  (if indices.length % 3 = 0 then [] else [.indexLength indices.length]) ++
  (if indices.any (fun i => count ≤ i) then [.outOfRange count] else []) ++
  (if positions.all Float32.isFinite then [] else [.notFinite])

end LayeredScene
