/-! # Settings

What can be chosen about a compilation: how finely round bodies are divided, how irregular blobs
are, and how the scene is written. -/

namespace LayeredScene

structure MeshSettings where
  /-- The divisions of spheres, eggs and droplets from pole to pole. -/
  sphereSegments : UInt32 := 32
  /-- The divisions of the rims of cylinders and cones. -/
  cylinderSegments : UInt32 := 32
  /-- The divisions of the sphere that a blob starts from. -/
  blobSegments : UInt32 := 16
  /-- The largest offset of a blob's vertices along an axis, as a fraction of the blob's size. -/
  blobJitter : Float := 0.2
  seed : UInt64 := 0
deriving DecidableEq

structure OutputSettings where
  /-- May meshes be generated side by side?  This never changes the result. -/
  parallel : Bool := true
  pretty : Bool := true
deriving DecidableEq

structure Settings where
  mesh : MeshSettings := {}
  output : OutputSettings := {}
deriving DecidableEq

end LayeredScene
