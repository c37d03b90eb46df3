import LayeredScene.Settings.Basic
import LayeredScene.Json.Record

/-! # Settings as JSON

Every setting may be left out, and then has its default. -/

namespace LayeredScene

namespace MeshSettings

def record : Record (UInt32 × UInt32 × UInt32 × Float × UInt64 × Unit) :=
  let defaults : MeshSettings := {}
  .cons (.defaulted "sphere_segments" .word32 defaults.sphereSegments) <|
  .cons (.defaulted "cylinder_segments" .word32 defaults.cylinderSegments) <|
  .cons (.defaulted "blob_segments" .word32 defaults.blobSegments) <|
  .cons (.defaulted "blob_jitter" .double defaults.blobJitter) <|
  .cons (.defaulted "seed" .word64 defaults.seed) .unit

def codec : Codec MeshSettings :=
  record.codec
    (fun (sphereSegments, cylinderSegments, blobSegments, blobJitter, seed, _) =>
      { sphereSegments, cylinderSegments, blobSegments, blobJitter, seed })
    (fun s => (s.sphereSegments, s.cylinderSegments, s.blobSegments, s.blobJitter, s.seed, ()))

end MeshSettings

namespace OutputSettings

def record : Record (Bool × Bool × Unit) :=
  let defaults : OutputSettings := {}
  .cons (.defaulted "parallel" .bool defaults.parallel) <|
  .cons (.defaulted "pretty" .bool defaults.pretty) .unit

def codec : Codec OutputSettings :=
  record.codec (fun (parallel, pretty, _) => { parallel, pretty })
    (fun s => (s.parallel, s.pretty, ()))

end OutputSettings

namespace Settings

def record : Record (MeshSettings × OutputSettings × Unit) :=
  .cons (.defaulted "geometry" MeshSettings.codec {}) <|
  .cons (.defaulted "export" OutputSettings.codec {}) .unit

def codec : Codec Settings :=
  record.codec (fun (mesh, output, _) => { mesh, output }) (fun s => (s.mesh, s.output, ()))

end Settings

end LayeredScene
