import LayeredScene.Object.Basic

/-! # Outlines

The outline of an object is one line of text: its type, its layers, and where the bodies of each
layer are, in whole decimeters toward the origin. -/

namespace LayeredScene

open Float.Model (UnpackedFloat)

def leastWhole : Int := -0x8000000000000000

def greatestWhole : Int := 0x7FFFFFFFFFFFFFFF

/-- The whole part of a number, toward zero; an infinity counts as the outermost of 64 bits. -/
def wholePart : UnpackedFloat → Int
  | .finite sign mantissa exponent _ =>
    let size := mantissa * Nat.pow 2 exponent.toNat / Nat.pow 2 (-exponent).toNat
    if sign == .negative then -(size : Int) else size
  | .infinity sign => if sign == .negative then leastWhole else greatestWhole
  | _ => 0

/-- A length in whole decimeters, within 64 bits. -/
def decimeters (meters : Float) : Int :=
  max leastWhole (min greatestWhole (wholePart (meters * 10).toModel.unpack))

namespace Object

def outlineBody (s : Statement) : String :=
  let p := s.position.map decimeters
  "A" ++ toString p.x ++ "B" ++ toString p.y ++ "C" ++ toString p.z ++ "."

def outlineLayer (l : Layer) : String :=
  "/" ++ l.name ++ ":" ++ String.join (l.statements.map outlineBody)

def outline (o : Object) : String :=
  o.objectType ++ ":" ++ String.join (o.layers.map outlineLayer)

end Object

end LayeredScene
