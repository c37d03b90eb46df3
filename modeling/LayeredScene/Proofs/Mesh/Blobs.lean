import LayeredScene.Mesh.OfStatement
import LayeredScene.Proofs.Traversal

/-! # Which blobs can be drawn

Only blobs can fail to have a mesh, and they do so exactly if the range that their offsets are drawn
from cannot be scaled to.  An amplitude that is no finite number does no harm, since nothing is
drawn then; but the amplitude can be finite and the range twice as long not.
-/

namespace LayeredScene

/-- The amplitude of a blob can be drawn by itself, but the range from its negative to itself is not
    a finite number of steps of the keystream. -/
def Mesh.Overdrawn (amplitude : Float32) : Prop :=
  (amplitude == 0) = false ∧ amplitude.isFinite = true ∧
    ((amplitude - -amplitude) / Mesh.unitMax).isFinite = false

instance (amplitude : Float32) : Decidable (Mesh.Overdrawn amplitude) :=
  inferInstanceAs (Decidable (_ ∧ _ ∧ _))

/-- The largest offset of the vertices of a blob along an axis. -/
def ShapeSpec.amplitude (p : ShapeSpec) : Float32 :=
  (p.jitter * p.size.x).abs

/-- The statement is of a blob that cannot be drawn. -/
def Statement.Overdrawn (settings : MeshSettings) (s : Statement) : Prop :=
  s.shape = .blob ∧ Mesh.Overdrawn (ShapeSpec.ofStatement s settings).amplitude

instance (settings : MeshSettings) (s : Statement) : Decidable (s.Overdrawn settings) :=
  inferInstanceAs (Decidable (_ ∧ _))

namespace Mesh

theorem exists_offsetScale_iff (amplitude : Float32) :
    (∃ scale, offsetScale amplitude = .ok scale) ↔
      ((amplitude - -amplitude) / unitMax).isFinite = true := by
  unfold offsetScale
  cases finite : ((amplitude - -amplitude) / unitMax).isFinite <;> simp [finite]

theorem exists_blob_iff (size : Float32) (segments : UInt32) (jitter : Float32) (seed : UInt64) :
    (∃ m, blob size segments jitter seed = .ok m) ↔ ¬ Overdrawn (jitter * size).abs := by
  rw [Overdrawn, blob]
  generalize (jitter * size).abs = amplitude
  cases zero : amplitude == 0 with
  | true => simp [pure, Except.pure]
  | false =>
    cases finite : amplitude.isFinite with
    | false => simp [pure, Except.pure]
    | true =>
      -- The range is asked for, and everything behind it works.
      have drawn := exists_offsetScale_iff amplitude
      cases scaled : offsetScale amplitude with
      | error e => simp_all [bind, Except.bind]
      | ok scale => simp_all [bind, Except.bind, pure, Except.pure]

/-- A shape has a mesh unless it is a blob that cannot be drawn. -/
theorem exists_ofSpec_iff (shape : Shape) (p : ShapeSpec) :
    (∃ m, ofSpec shape p = .ok m) ↔ ¬ (shape = .blob ∧ Overdrawn p.amplitude) := by
  cases shape with
  | blob =>
    rw [ofSpec, exists_blob_iff, ShapeSpec.amplitude]
    simp
  | _ => simp [ofSpec]

theorem exists_ofStatement_iff (s : Statement) (settings : MeshSettings) :
    (∃ m, ofStatement s settings = .ok m) ↔ ¬ s.Overdrawn settings :=
  exists_ofSpec_iff s.shape _

end Mesh

end LayeredScene
