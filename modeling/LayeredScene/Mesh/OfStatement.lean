import LayeredScene.Mesh.Spec
import LayeredScene.Mesh.Blob

/-! # The mesh of a shape

Every shape has its generator, which takes from the inputs what it needs. -/

namespace LayeredScene.Mesh

def ofSpec (shape : Shape) (p : ShapeSpec) : Except RangeOverflow Mesh :=
  match shape with
  | .cube => .ok (box p.size)
  | .sphere => .ok (sphere (p.size.x * 0.5) p.segments)
  | .cylinder => .ok (cylinder p.size.y p.radius p.segments)
  | .cone => .ok (cone p.size.y p.radius p.segments)
  | .pyramid => .ok (pyramid p.size)
  | .blob => blob p.size.x p.segments p.jitter p.seed
  | .droplet => .ok (droplet (p.size.x * 0.5) p.segments)
  | .egg => .ok (egg (p.size.x * 0.5) p.segments)

def ofStatement (s : Statement) (settings : MeshSettings) : Except RangeOverflow Mesh :=
  ofSpec s.shape (.ofStatement s settings)

end LayeredScene.Mesh
