import LayeredScene.Proofs.Compilation.Concatenation
import LayeredScene.Proofs.Mesh.Blobs
import LayeredScene.Proofs.Mesh.Validity
import LayeredScene.Proofs.Object.Layers
import LayeredScene.Proofs.Statement.Scanning

/-! # Which source texts compile

Every step of a compilation works on every input, with a single exception: a blob whose offsets
would be drawn from a range that is no finite number has no mesh.  So a source compiles exactly if
none of its statements is such a blob (`exists_ofSource_iff`), and with few enough segments the
arithmetic of words that numbers the vertices does not overflow either.
-/

namespace LayeredScene

/-- The greatest number of divisions for which the vertices of a grid can be counted in a word. -/
def mostSegments : Nat := 65534

structure MeshSettings.FewSegments (settings : MeshSettings) : Prop where
  sphere : settings.sphereSegments.toNat ≤ mostSegments
  cylinder : settings.cylinderSegments.toNat ≤ mostSegments
  blob : settings.blobSegments.toNat ≤ mostSegments

theorem MeshSettings.FewSegments.segmentsFor_le {settings : MeshSettings}
    (few : settings.FewSegments) (shape : Shape) :
    (settings.segmentsFor shape).toNat ≤ mostSegments := by
  cases shape with
  | cylinder | cone => exact few.cylinder
  | blob => exact few.blob
  | _ => exact few.sphere

namespace Mesh

theorem le_mostDivisions {n : Nat} (h : n ≤ mostSegments) (shape : Shape) :
    n ≤ mostDivisions shape := by
  rw [mostSegments] at h
  cases shape <;> simp only [mostDivisions] <;> omega

/-- With few segments the vertices that the faces of a statement name are numbered without an
    overflow. -/
theorem isSome_faceWords? {settings : MeshSettings} (few : settings.FewSegments) (s : Statement) :
    (faceWords? s.shape (ShapeSpec.ofStatement s settings)).isSome := by
  have segments : (ShapeSpec.ofStatement s settings).segments.toNat ≤ mostSegments :=
    few.segmentsFor_le s.shape
  have bounded : divisions (ShapeSpec.ofStatement s settings).segments ≤ mostSegments := by
    rw [divisions_eq_max]
    exact max_le segments (by decide)
  rw [faceWords?_eq, if_pos (le_mostDivisions bounded s.shape)]
  rfl

end Mesh

namespace Scene

theorem exists_ofObject_iff (o : Object) (block : Nat) (settings : Settings) :
    (∃ scene, ofObject o block settings = .ok scene) ↔
      ∀ s ∈ o.statements, ¬ s.Overdrawn settings.mesh := by
  rw [ofObject_eq_map, exists_map_ok_iff, exists_mapM_ok_iff]
  simp only [Mesh.exists_ofStatement_iff]

end Scene

namespace Reading

theorem mem_statements_of_ofLines? {lines : List NumberedLine} {r : Reading}
    (read : ofLines? lines = some r) {s : Statement} :
    s ∈ r.object.statements ↔ s ∈ lines.filterMap NumberedLine.statement? := by
  cases lines with
  | nil => cases read
  | cons first rest =>
    obtain rfl := Option.some.inj read
    exact Object.mem_statements_ofStatements

/-- The statements of the objects of some blocks are those of the lines of the blocks. -/
theorem mem_statements_ofBlocks {blocks : List Block} {s : Statement} :
    (∃ r ∈ ofBlocks blocks, s ∈ r.object.statements) ↔
      s ∈ (blocks.flatMap (·.lines)).filterMap NumberedLine.statement? := by
  rw [List.filterMap_flatMap, List.mem_flatMap]
  constructor
  · rintro ⟨r, hr, hs⟩
    obtain ⟨b, hb, read⟩ := List.mem_filterMap.mp hr
    exact ⟨b, hb, (mem_statements_of_ofLines? read).mp hs⟩
  · rintro ⟨b, hb, hs⟩
    have nonempty : b.lines ≠ [] := fun none => by simp [none] at hs
    obtain ⟨r, -, read, -⟩ := ofLines?_of_ne_nil nonempty
    exact ⟨r, List.mem_filterMap.mpr ⟨b, hb, read⟩, (mem_statements_of_ofLines? read).mpr hs⟩

end Reading

namespace Compilation

theorem exists_buildObject_iff (settings : Settings) (o : Object) (k : Nat) :
    (∃ x, buildObject settings o k = .ok x) ↔
      ∀ s ∈ o.statements, ¬ s.Overdrawn settings.mesh := by
  have built : buildObject settings o k =
      (fun scene => ⟨o, scene, o.outline⟩) <$> Scene.ofObject o k settings := bind_pure_comp _ _
  rw [built, exists_map_ok_iff, Scene.exists_ofObject_iff]

theorem exists_objectsFrom_iff (settings : Settings) (k : Nat) (os : List Object) :
    (∃ xs, objectsFrom settings k os = .ok xs) ↔
      ∀ o ∈ os, ∀ s ∈ o.statements, ¬ s.Overdrawn settings.mesh := by
  rw [objectsFrom, exists_mapM_ok_iff]
  simp only [exists_buildObject_iff]
  constructor
  · intro works o ho
    obtain ⟨i, hi⟩ := List.getElem?_of_mem ho
    exact works (o, k + i) (List.mk_add_mem_zipIdx_iff_getElem?.mpr hi)
  · intro works x hx
    exact works x.1 (List.fst_mem_of_mem_zipIdx hx)

/-- A source text compiles exactly if none of its statements is a blob that cannot be drawn. -/
theorem exists_ofSource_iff (settings : Settings) (source : String) :
    (∃ c, ofSource settings source = .ok c) ↔
      ∀ s ∈ (NumberedLine.ofSource source).filterMap NumberedLine.statement?,
        ¬ s.Overdrawn settings.mesh := by
  rw [ofSource_eq_objectsFrom, exists_map_ok_iff, exists_objectsFrom_iff,
    ← Block.flatMap_lines_split (NumberedLine.ofSource source)]
  simp only [List.forall_mem_map, ← Reading.mem_statements_ofBlocks]
  constructor
  · rintro works s ⟨r, hr, hs⟩
    exact works r hr s hs
  · intro works r hr s hs
    exact works s ⟨r, hr, hs⟩

/-- With few enough segments every source text compiles, except that a blob among its statements may
    not be drawn; the vertices of every shape are numbered without an overflow; and neither the
    scan of the tokens nor that of a measurement leaves the text. -/
theorem compiles_unless_overdrawn (settings : Settings) (few : settings.mesh.FewSegments)
    (source : String) :
    ((∃ c, ofSource settings source = .ok c) ↔
      ∀ s ∈ (NumberedLine.ofSource source).filterMap NumberedLine.statement?,
        ¬ s.Overdrawn settings.mesh) ∧
    (∀ s ∈ (NumberedLine.ofSource source).filterMap NumberedLine.statement?,
      (Mesh.faceWords? s.shape (ShapeSpec.ofStatement s settings.mesh)).isSome) ∧
    (∀ tokens, Command.scanFrom? tokens 0 = some (Command.ofTokens tokens)) ∧
    ∀ cs m, Measurement.scan? cs = some m →
      sliceFrom? cs ((cs.takeWhile Measurement.isNumeric ++ m.unit.suffix.toList).length) =
        some m.rest :=
  ⟨exists_ofSource_iff settings source, fun s _ => Mesh.isSome_faceWords? few s,
    fun tokens => Command.scanFrom?_eq tokens 0, fun _ _ => Measurement.sliceFrom?_of_scan?⟩

/-- A large blob compiles with the usual offsets, since these are small beside it. -/
theorem compiles_large_blob :
    ({} : Settings).mesh.FewSegments ∧
    ∃ c, ofSource {} "A > b > blob 200000000000000000000000000000000000000m" = .ok c := by
  have few : ({} : Settings).mesh.FewSegments := ⟨by decide, by decide, by decide⟩
  exact ⟨few, (compiles_unless_overdrawn {} few _).1.mpr (by decide +kernel)⟩

/-- A large blob whose vertices may move as far as it is large cannot be drawn, although the
    distance is a finite number: twice the distance is not. -/
theorem not_compiles_large_blob :
    ¬ ∀ settings : Settings, settings.mesh.FewSegments →
      ∀ source, ∃ c, ofSource settings source = .ok c := by
  intro compiles
  obtain ⟨c, h⟩ := compiles { mesh := { blobJitter := 1 } } ⟨by decide, by decide, by decide⟩
    "A > b > blob 200000000000000000000000000000000000000m"
  have failed : (ofSource { mesh := { blobJitter := 1 } }
      "A > b > blob 200000000000000000000000000000000000000m").isOk = false := by decide +kernel
  rw [h] at failed
  cases failed

end Compilation

end LayeredScene
