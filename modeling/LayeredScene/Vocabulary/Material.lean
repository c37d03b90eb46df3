import LayeredScene.Json.Record

/-! # Materials

The surface of a body: its colour and how it reflects, with a few optional properties and any number
of named ones.  A statement names a material of the vocabulary; one that names none is of wood. -/

namespace LayeredScene

structure Material where
  name : String
  /-- The base colour, written `#RRGGBB`. -/
  color : String
  roughness : Float32
  metalness : Float32
  transmission : Option Float32 := none
  subsurface : Option Float32 := none
  hardness : Option Float32 := none
  /-- Further properties by name. -/
  traits : SortedMap Float32 := .empty
deriving DecidableEq

namespace Material

/-- How much of the light is kept: all of it unless the material transmits some. -/
def opacity (m : Material) : Float32 :=
  1 - m.transmission.getD 0

def isTransparent (m : Material) : Bool :=
  0 < m.transmission.getD 0

def withTrait (m : Material) (name : String) (value : Float32) : Material :=
  { m with traits := m.traits.insert name value }

/-- The material of a statement that names none. -/
def wood : Material := { name := "wood", color := "#8B4513", roughness := 0.8, metalness := 0 }

def vocabulary : List Material :=
  [{ name := "skin", color := "#F5CBA7", roughness := 0.6, metalness := 0, subsurface := some 0.3 },
   { name := "flesh", color := "#C04040", roughness := 0.8, metalness := 0
     subsurface := some 0.5 },
   { name := "bone", color := "#FFFEF0", roughness := 0.4, metalness := 0, hardness := some 0.9 },
   { name := "cartilage", color := "#E0E0E0", roughness := 0.5, metalness := 0 : Material
     }.withTrait "flexibility" 0.7,
   { name := "fat", color := "#FFF8DC", roughness := 0.9, metalness := 0 : Material
     }.withTrait "softness" 0.9,
   { name := "tendon", color := "#F0F0F0", roughness := 0.6, metalness := 0 : Material
     }.withTrait "tensile" 0.8,
   { name := "ligament", color := "#F5F5DC", roughness := 0.6, metalness := 0 : Material
     }.withTrait "tensile" 0.8,
   wood,
   { name := "metal", color := "#C0C0C0", roughness := 0.2, metalness := 1 },
   { name := "glass", color := "#FFFFFF", roughness := 0, metalness := 0,
     transmission := some 0.9 },
   { name := "plastic", color := "#FFFFFF", roughness := 0.5, metalness := 0 },
   { name := "fabric", color := "#808080", roughness := 1, metalness := 0 },
   { name := "leather", color := "#654321", roughness := 0.7, metalness := 0 },
   { name := "concrete", color := "#A0A0A0", roughness := 0.9, metalness := 0 },
   { name := "ceramic", color := "#FFFFFF", roughness := 0.3, metalness := 0 },
   { name := "stone", color := "#808080", roughness := 0.9, metalness := 0 },
   { name := "clay", color := "#B87333", roughness := 1, metalness := 0 },
   { name := "sand", color := "#C2B280", roughness := 1, metalness := 0 },
   { name := "water", color := "#0080FF", roughness := 0, metalness := 0,
     transmission := some 0.8 },
   { name := "ice", color := "#E0FFFF", roughness := 0.1, metalness := 0 : Material
     }.withTrait "transparency" 0.7,
   { name := "crystal", color := "#FFFFFF", roughness := 0, metalness := 0.3 : Material
     }.withTrait "refraction" 1.5]

def ofWord? (word : String) : Option Material :=
  vocabulary.find? (·.name == word)

def record : Record (String × String × Float32 × Float32 × Option Float32 × Option Float32 ×
    Option Float32 × SortedMap Float32 × Unit) :=
  .cons (.required "name" .text) <|
  .cons (.required "color" .text) <|
  .cons (.required "roughness" .single) <|
  .cons (.required "metalness" .single) <|
  .cons (.optional "transmission" .single) <|
  .cons (.optional "subsurface" .single) <|
  .cons (.optional "hardness" .single) <|
  .cons (.entries "traits" .single) .unit

def codec : Codec Material :=
  record.codec
    (fun (name, color, roughness, metalness, transmission, subsurface, hardness, traits, _) =>
      { name, color, roughness, metalness, transmission, subsurface, hardness, traits })
    (fun m => (m.name, m.color, m.roughness, m.metalness, m.transmission, m.subsurface, m.hardness,
      m.traits, ()))

end Material

end LayeredScene
