import LayeredScene.Json.Codec

/-! # Shapes

The primitive bodies that a statement can name. -/

namespace LayeredScene

inductive Shape where
  | cube
  | sphere
  | cylinder
  | cone
  | pyramid
  | blob
  | droplet
  | egg
deriving DecidableEq, Inhabited

namespace Shape

def keyword : Shape → String
  | cube => "cube"
  | sphere => "sphere"
  | cylinder => "cylinder"
  | cone => "cone"
  | pyramid => "pyramid"
  | blob => "blob"
  | droplet => "droplet"
  | egg => "egg"

def all : List Shape := [cube, sphere, cylinder, cone, pyramid, blob, droplet, egg]

/-- The shape that a word names.  A cube may also be called a box. -/
def ofKeyword? (word : String) : Option Shape :=
  if word = "box" then some cube else all.find? (·.keyword == word)

def codec : Codec Shape :=
  .choice (all.map fun s => (s.keyword, s)) keyword

end Shape

end LayeredScene
