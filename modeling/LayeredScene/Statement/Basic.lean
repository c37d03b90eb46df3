import LayeredScene.Vocabulary.Shape
import LayeredScene.Vocabulary.Material

/-! # Statements

A statement places one body into a layer of an object: its shape, where it is, how large it is, of
what material, and whatever else was said about it. -/

namespace LayeredScene

/-- A value that is noted under a key. -/
inductive Detail where
  /-- A length in meters. -/
  | length (meters : Float)
  | count (n : UInt32)
  /-- The name of another part. -/
  | reference (name : String)
  /-- An argument kept as it was written. -/
  | text (s : String)
deriving DecidableEq

/-- A body in a layer of an object. -/
structure Statement where
  objectType : String
  layer : String
  shape : Shape
  position : Triple Float
  size : Triple Float
  rotation : Triple Float
  material : Material
  /-- The words that mean nothing in particular and the tags of motions, in order. -/
  modifiers : List String
  details : SortedMap Detail
deriving DecidableEq

namespace Statement

def plain (objectType layer : String) : Statement :=
  { objectType, layer
    shape := .cube
    position := .splat 0
    size := .splat 1
    rotation := .splat 0
    material := .wood
    modifiers := []
    details := .empty }

def diameter (s : Statement) : Option Float :=
  match s.details.get? "diameter" with
  | some (.length meters) => some meters
  | _ => none

/-- What the body is called: the first modifier, or else its shape. -/
def label (s : Statement) : String :=
  s.modifiers.head?.getD s.shape.keyword

end Statement

end LayeredScene
