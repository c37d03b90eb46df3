import LayeredScene.Triple

/-! # Rotations

A rotation given by angles around the axes, as the quaternion that does the same. -/

namespace LayeredScene

/-- A quaternion, the real part last. -/
structure Quaternion where
  x : Float32
  y : Float32
  z : Float32
  w : Float32
deriving DecidableEq

namespace Quaternion

def toList (q : Quaternion) : List Float32 := [q.x, q.y, q.z, q.w]

/-- The rotation around `x`, then `y`, then `z`. -/
def ofAngles (angles : Triple Float32) : Quaternion :=
  let i := angles.x * 0.5
  let j := -angles.y * 0.5
  let h := angles.z * 0.5
  let cc := i.cos * h.cos
  let cs := i.cos * h.sin
  let sc := i.sin * h.cos
  let ss := i.sin * h.sin
  { x := j.cos * sc - j.sin * cs
    y := -1 * (j.cos * ss + j.sin * cc)
    z := j.cos * cs - j.sin * sc
    w := j.cos * cc + j.sin * ss }

end Quaternion

end LayeredScene
