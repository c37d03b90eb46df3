import LayeredScene.Text.Case

/-! # Known layers

Layers whose names carry a meaning: those of a body, from the bones to the skin, and those of a
thing that is built.  A layer of any other name is allowed and means nothing in particular. -/

namespace LayeredScene

/-- The family that a known layer belongs to. -/
inductive LayerRealm where
  | anatomical
  | structural
deriving DecidableEq

structure LayerKind where
  name : String
  realm : LayerRealm
  /-- The place in the stack, from the inside out. -/
  depth : UInt32
  color : Option String := none
  opacity : Option Float32 := none
  purpose : Option String := none

namespace LayerKind

def ofBody (name : String) (depth : UInt32) (color : String) (opacity : Float32) : LayerKind :=
  { name, realm := .anatomical, depth, color := some color, opacity := some opacity }

def ofThing (name : String) (depth : UInt32) (purpose : String) : LayerKind :=
  { name, realm := .structural, depth, purpose := some purpose }

def table : List LayerKind :=
  [ofBody "skeletal" 0 "#FFFEF0" 1,
   ofBody "muscular" 1 "#C04040" 0.8,
   ofBody "vascular" 2 "#FF0000" 0.6,
   ofBody "nervous" 3 "#FFFF00" 0.5,
   ofBody "lymphatic" 4 "#90EE90" 0.4,
   ofBody "organ" 5 "#8B4513" 0.7,
   ofBody "fascia" 6 "#F0F0F0" 0.3,
   ofBody "dermis" 7 "#FFD7A0" 0.8,
   ofBody "epidermis" 8 "#F5CBA7" 1,
   ofBody "subcutaneous" 9 "#FFF8DC" 0.5,
   ofThing "core" 0 "structural",
   ofThing "structure" 1 "support",
   ofThing "padding" 2 "comfort",
   ofThing "covering" 3 "protection",
   ofThing "surface" 4 "interface",
   ofThing "coating" 5 "finish"]

def ofName? (name : String) : Option LayerKind :=
  table.find? (·.name == name)

def bodyNames : List String :=
  (table.filter (·.realm == .anatomical)).map (·.name)

end LayerKind

/-- Object types that are layered composites whatever their layers are called. -/
def compositeMarkers : List String := ["HUMAN_BODY"]

/-- Is an object a layered composite, one whose layers can be shown and hidden?  It is if its type
contains a marker or the name of one of its layers contains that of a layer of a body. -/
def formsComposite (objectType : String) (layers : List String) : Bool :=
  let typeChars := (Text.upper objectType).toList
  compositeMarkers.any (fun marker => Text.occurs marker.toList typeChars) ||
    layers.any fun layer =>
      let chars := (Text.lower layer).toList
      LayerKind.bodyNames.any fun name => Text.occurs name.toList chars

end LayeredScene
