import LayeredScene.Mesh.Flat

/-! # Spheres, eggs and droplets

Round bodies are a grid of lines from pole to pole and lines around.  The grid is not closed: the
first and the last line from pole to pole lie on each other, and the points of a pole too. -/

namespace LayeredScene.Mesh

/-- The ratio of a circle's circumference to its diameter. -/
def halfTurn : Float32 := Float32.ofBits 0x40490FDB

/-- How much longer the upper half of an egg is than that of a sphere. -/
def upperStretch : Float32 := 1.3

def gridIndex (n row column : Nat) : Nat := row * (n + 1) + column

def gridFaces (n : Nat) : List (Face Nat) :=
  (List.range n).flatMap fun row => (List.range n).map fun column =>
    .quad (gridIndex n row column) (gridIndex n row (column + 1))
      (gridIndex n (row + 1) (column + 1)) (gridIndex n (row + 1) column)

/-- The vertices of a grid with `n` divisions, row by row; `point` places the one at an angle from
the pole and an angle around. -/
def gridVertices (n : Nat) (point : Float32 → Float32 → Triple Float32) :
    List (Triple Float32) :=
  (List.range (n + 1)).flatMap fun row =>
    let down := real row * halfTurn / real n
    (List.range (n + 1)).map fun column =>
      point down (2 * real column * halfTurn / real n)

def grid (shape : Shape) (segments : UInt32) (point : Float32 → Float32 → Triple Float32) : Mesh :=
  let n := divisions segments
  { shape
    vertices := gridVertices n point
    faces := (gridFaces n).map (·.map UInt32.ofNat) }

def pointOnSphere (radius down around : Float32) : Triple Float32 :=
  ⟨radius * down.sin * around.cos, radius * down.cos, radius * down.sin * around.sin⟩

/-- A point of an egg: a sphere whose upper half is stretched. -/
def pointOnEgg (radius down around : Float32) : Triple Float32 :=
  let p := pointOnSphere radius down around
  { p with y := if 0 < p.y then p.y * upperStretch else p.y }

/-- A point of a droplet: a sphere that tapers off toward the upper pole. -/
def pointOnDroplet (radius down around : Float32) : Triple Float32 :=
  let ring := radius * down.sin * (down * 0.5).sin
  ⟨ring * around.cos, radius * down.cos, ring * around.sin⟩

def sphere (radius : Float32) (segments : UInt32) : Mesh :=
  grid .sphere segments (pointOnSphere radius)

def egg (radius : Float32) (segments : UInt32) : Mesh :=
  grid .egg segments (pointOnEgg radius)

def droplet (radius : Float32) (segments : UInt32) : Mesh :=
  grid .droplet segments (pointOnDroplet radius)

end LayeredScene.Mesh
