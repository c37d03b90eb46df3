import LayeredScene.Mesh.Basic

/-! # Boxes, pyramids, cylinders and cones

Bodies with flat sides, and those whose rim is a ring of points.  Cylinders and cones stand on the
plane `y = 0`; vertex 0 is the center of the base and vertex 1 that of the top, or the apex. -/

namespace LayeredScene.Mesh

/-- The ratio of a circle's circumference to its radius. -/
def fullTurn : Float32 := Float32.ofBits 0x40C90FDB

def fewestDivisions : UInt32 := 1

/-- The number of divisions, which is at least one. -/
def divisions (segments : UInt32) : Nat :=
  (max segments fewestDivisions).toNat

def real (n : Nat) : Float32 := (UInt32.ofNat n).toFloat32

def box (size : Triple Float32) : Mesh :=
  let h := size.map (· * 0.5)
  { shape := .cube
    vertices :=
      [⟨-h.x, -h.y, -h.z⟩, ⟨h.x, -h.y, -h.z⟩, ⟨h.x, h.y, -h.z⟩, ⟨-h.x, h.y, -h.z⟩,
       ⟨-h.x, -h.y, h.z⟩, ⟨h.x, -h.y, h.z⟩, ⟨h.x, h.y, h.z⟩, ⟨-h.x, h.y, h.z⟩]
    faces :=
      [.quad 0 1 2 3, .quad 4 5 6 7, .quad 0 1 5 4, .quad 2 3 7 6, .quad 0 3 7 4,
       .quad 1 2 6 5] }

/-- A pyramid on a rectangle in the plane `y = 0`. -/
def pyramid (size : Triple Float32) : Mesh :=
  let hx := size.x * 0.5
  let hz := size.z * 0.5
  { shape := .pyramid
    vertices := [⟨-hx, 0, -hz⟩, ⟨hx, 0, -hz⟩, ⟨hx, 0, hz⟩, ⟨-hx, 0, hz⟩, ⟨0, size.y, 0⟩]
    faces := [.quad 0 3 2 1, .tri 0 1 4, .tri 1 2 4, .tri 2 3 4, .tri 3 0 4] }

/-- The `i`-th of `n` points of a ring at height `y`. -/
def rimPoint (radius y : Float32) (i n : Nat) : Triple Float32 :=
  let angle := real i * fullTurn / real n
  ⟨radius * angle.cos, y, radius * angle.sin⟩

def lowerIndex (n i : Nat) : Nat := 2 + 2 * (i % n)

def upperIndex (n i : Nat) : Nat := 3 + 2 * (i % n)

def cylinderFaces (n : Nat) : List (Face Nat) :=
  let lower := lowerIndex n
  let upper := upperIndex n
  (List.range n).map (fun i => .tri 0 (lower i) (lower (i + 1))) ++
  (List.range n).map (fun i => .tri 1 (upper (i + 1)) (upper i)) ++
  (List.range n).map (fun i => .quad (lower i) (upper i) (upper (i + 1)) (lower (i + 1)))

def cylinder (height radius : Float32) (segments : UInt32) : Mesh :=
  let n := divisions segments
  { shape := .cylinder
    vertices := ⟨0, 0, 0⟩ :: ⟨0, height, 0⟩ ::
      (List.range n).flatMap fun i => [rimPoint radius 0 i n, rimPoint radius height i n]
    faces := (cylinderFaces n).map (·.map UInt32.ofNat) }

def rimIndex (n i : Nat) : Nat := 2 + i % n

def coneFaces (n : Nat) : List (Face Nat) :=
  let ring := rimIndex n
  (List.range n).map (fun i => .tri 0 (ring i) (ring (i + 1))) ++
  (List.range n).map (fun i => .tri 1 (ring (i + 1)) (ring i))

def cone (height radius : Float32) (segments : UInt32) : Mesh :=
  let n := divisions segments
  { shape := .cone
    vertices := ⟨0, 0, 0⟩ :: ⟨0, height, 0⟩ ::
      (List.range n).map fun i => rimPoint radius 0 i n
    faces := (coneFaces n).map (·.map UInt32.ofNat) }

end LayeredScene.Mesh
