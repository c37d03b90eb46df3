import LayeredScene.Mesh.Grid
import LayeredScene.Keystream

/-! # Blobs

A blob is a sphere whose vertices are moved at random, by up to an amplitude along each axis.  The
numbers come from a keystream, so a seed always gives the same blob.  An amplitude so large that the
range from its negative to itself is not a finite number cannot be drawn from. -/

namespace LayeredScene

structure RangeOverflow where
deriving DecidableEq

namespace Mesh

/-- The greatest number that is drawn from the keystream: one less a unit of 23 bits. -/
def unitMax : Float32 := Float32.ofBits 0x3F7FFFFE

/-- A number from zero to `unitMax`, from the high bits of a word. -/
def unitOf (w : UInt32) : Float32 :=
  (w >>> 9).toFloat32 * Float32.ofBits 0x34000000

/-- The greatest scale, at most the one with these bits, that stretches the numbers from zero to
`unitMax` over no more than the range from `-amplitude` to `amplitude`. -/
def scaleBelow (amplitude : Float32) : Nat → Float32
  | 0 => Float32.ofBits 0
  | bits + 1 =>
    let scale := Float32.ofBits (UInt32.ofNat (bits + 1))
    if amplitude < scale * unitMax + -amplitude then scaleBelow amplitude bits else scale

def offsetScale (amplitude : Float32) : Except RangeOverflow Float32 :=
  let scale := (amplitude - -amplitude) / unitMax
  if scale.isFinite then .ok (scaleBelow amplitude scale.toBits.toNat) else .error {}

def draw (amplitude scale : Float32) (k : Keystream) : Float32 × Keystream :=
  let (w, k) := k.next
  (unitOf w * scale + -amplitude, k)

/-- Moves vertices one after the other, each along `x`, `y` and `z` in turn; those already moved are
in reverse. -/
def scatter (amplitude scale : Float32) :
    List (Triple Float32) → Keystream → List (Triple Float32) → List (Triple Float32)
  | [], _, moved => moved.reverse
  | v :: vs, k, moved =>
    let (dx, k) := draw amplitude scale k
    let (dy, k) := draw amplitude scale k
    let (dz, k) := draw amplitude scale k
    scatter amplitude scale vs k (⟨v.x + dx, v.y + dy, v.z + dz⟩ :: moved)

/-- A blob: a sphere of diameter `size` whose vertices are moved by up to `jitter * size`. -/
def blob (size : Float32) (segments : UInt32) (jitter : Float32) (seed : UInt64) :
    Except RangeOverflow Mesh := do
  let base := { sphere (size * 0.5) segments with shape := .blob }
  let amplitude := (jitter * size).abs
  if amplitude == 0 || !amplitude.isFinite then return base
  let scale ← offsetScale amplitude
  return { base with vertices := scatter amplitude scale base.vertices (.ofSeed seed) [] }

end Mesh

end LayeredScene
