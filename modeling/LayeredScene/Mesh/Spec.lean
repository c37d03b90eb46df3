import LayeredScene.Mesh.Basic
import LayeredScene.Settings.Basic
import LayeredScene.Statement.Basic
import LayeredScene.Digest.SipHash

/-! # What a mesh is generated from

The numbers that a generator needs are taken from a statement and the settings.  The seed of a blob
is a hash of everything in the statement that can be seen, so that equal statements give equal blobs
wherever they stand.  Each text is closed by a byte that UTF-8 never uses and each list is led by
its length, so different statements are never spelled alike. -/

namespace LayeredScene

structure ShapeSpec where
  size : Triple Float32 := .splat 1
  /-- The diameter of a round cross-section, if it is not that of the extent. -/
  diameter : Option Float32 := none
  segments : UInt32 := 32
  /-- The largest offset of a blob's vertices, as a fraction of its size. -/
  jitter : Float32 := 0.2
  seed : UInt64 := 0
deriving DecidableEq

def ShapeSpec.radius (p : ShapeSpec) : Float32 :=
  p.diameter.getD p.size.x * 0.5

/-- The bits of a number; every result that is not a number has the same ones. -/
def bitsOf (x : Float) : UInt64 :=
  if x.isNaN then 0xFFF8000000000000 else x.toBits

/-- A text, closed by a byte that occurs in none. -/
def closedText (s : String) : List UInt8 := utf8 s ++ [0xFF]

namespace Statement

def coordinates (s : Statement) : List Float :=
  s.position.toList ++ s.size.toList ++ s.rotation.toList

def seedBytes (s : Statement) : List UInt8 :=
  closedText s.objectType ++ closedText s.layer ++ closedText s.shape.keyword ++
    s.coordinates.flatMap (fun x => littleEndian64 (bitsOf x)) ++ closedText s.material.name ++
    littleEndian64 (UInt64.ofNat s.modifiers.length) ++ s.modifiers.flatMap closedText

def seed (s : Statement) (base : UInt64) : UInt64 :=
  sipHash base 0 s.seedBytes

end Statement

def MeshSettings.segmentsFor (settings : MeshSettings) : Shape → UInt32
  | .cylinder | .cone => settings.cylinderSegments
  | .blob => settings.blobSegments
  | _ => settings.sphereSegments

def ShapeSpec.ofStatement (s : Statement) (settings : MeshSettings) : ShapeSpec :=
  { size := s.size.map narrow
    diameter := s.diameter.map narrow
    segments := settings.segmentsFor s.shape
    jitter := narrow settings.blobJitter
    seed := s.seed settings.seed }

end LayeredScene
