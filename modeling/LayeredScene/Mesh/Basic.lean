import LayeredScene.Vocabulary.Shape

/-! # Meshes

A mesh is a list of vertices and a list of faces over their indices.  Faces are triangles or
quadrilaterals; a renderer gets triangles only. -/

namespace LayeredScene

inductive Face (ι : Type) where
  | tri (a b c : ι)
  | quad (a b c d : ι)
deriving DecidableEq

namespace Face

variable {ι κ : Type}

def indices : Face ι → List ι
  | tri a b c => [a, b, c]
  | quad a b c d => [a, b, c, d]

def map (f : ι → κ) : Face ι → Face κ
  | tri a b c => tri (f a) (f b) (f c)
  | quad a b c d => quad (f a) (f b) (f c) (f d)

def isQuad : Face ι → Bool
  | tri .. => false
  | quad .. => true

/-- The corners of the triangles that make up the face: a quadrilateral is cut from its first corner
to its third. -/
def triangles : Face ι → List ι
  | tri a b c => [a, b, c]
  | quad a b c d => [a, b, c, a, c, d]

end Face

structure Mesh where
  shape : Shape
  vertices : List (Triple Float32)
  faces : List (Face UInt32)
deriving DecidableEq

/-- The lesser of two numbers; what is not a number is ignored. -/
def lesser (a b : Float32) : Float32 :=
  if a.isNaN then b else if b < a then b else a

/-- The greater of two numbers; what is not a number is ignored. -/
def greater (a b : Float32) : Float32 :=
  if a.isNaN then b else if a < b then b else a

namespace Mesh

def quadrilateralCount (m : Mesh) : Nat := m.faces.countP (·.isQuad)

def triangleCount (m : Mesh) : Nat := m.faces.countP (! ·.isQuad)

def positions (m : Mesh) : List Float32 := m.vertices.flatMap (·.toList)

def corners (m : Mesh) : List UInt32 := m.faces.flatMap (·.triangles)

/-- The least and the greatest coordinates; a mesh without vertices has none. -/
def bounds (m : Mesh) : Option (Triple Float32 × Triple Float32) :=
  match m.vertices with
  | [] => none
  | first :: _ =>
    some (m.vertices.foldl (fun (low, high) v => (low.zipWith lesser v, high.zipWith greater v))
      (first, first))

end Mesh

end LayeredScene
