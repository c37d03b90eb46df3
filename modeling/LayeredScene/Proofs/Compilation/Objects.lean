import LayeredScene.Compilation.Basic
import LayeredScene.Proofs.Positions
import LayeredScene.Proofs.Traversal
import LayeredScene.Proofs.Source.Blocks

/-! # The objects of a compilation are those of its blocks

A compilation that works has one object per block, under the number of the block, and its report is
that of the blocks in order.
-/

namespace LayeredScene

/-- Lines that are there are read: their statements make the object, and the others are dropped. -/
theorem Reading.ofLines?_of_ne_nil {lines : List NumberedLine} (h : lines ≠ []) :
    ∃ r objectType, Reading.ofLines? lines = some r ∧
      r.object = Object.ofStatements objectType (lines.filterMap NumberedLine.statement?) ∧
      r.dropped = lines.filterMap NumberedLine.dropped? := by
  cases lines with
  | nil => exact absurd rfl h
  | cons first rest => exact ⟨_, _, rfl, rfl, rfl⟩

namespace Block

theorem isSome_ofLines?_of_mem_ofSource {source : String} {b : Block} (h : b ∈ ofSource source) :
    (Reading.ofLines? b.lines).isSome := by
  obtain ⟨r, -, read, -⟩ := Reading.ofLines?_of_ne_nil (lines_ne_nil_of_mem_split h)
  exact Option.isSome_iff_exists.2 ⟨r, read⟩

end Block

namespace Compilation

variable {settings : Settings} {source : String} {c : Compilation}

theorem buildObject_eq_ok {o : Object} {k : Nat} {b : BuiltObject}
    (h : buildObject settings o k = .ok b) :
    b.object = o ∧ b.outline = o.outline ∧ Scene.ofObject o k settings = .ok b.scene := by
  obtain ⟨scene, built, h⟩ := bind_eq_ok h
  obtain rfl := Except.ok.inj h
  exact ⟨rfl, rfl, built⟩

theorem ofReadings_eq_map (settings : Settings) (readings : List Reading) :
    ofReadings settings readings = (⟨·, readings.flatMap (·.dropped)⟩) <$>
      readings.zipIdx.mapM fun r => buildObject settings r.1.object r.2 :=
  bind_pure_comp _ _

/-- A compilation that works has built every reading under its number. -/
theorem ofSource_eq_ok (h : ofSource settings source = .ok c) :
    let readings := (Block.ofSource source).filterMap fun b => Reading.ofLines? b.lines
    readings.zipIdx.mapM (fun (r, k) => buildObject settings r.object k) = .ok c.objects ∧
      c.dropped = readings.flatMap (·.dropped) := by
  intro readings
  rw [ofSource, ofReadings_eq_map] at h
  obtain ⟨objects, built, rfl⟩ := map_eq_ok h
  exact ⟨built, rfl⟩

theorem length_objects (h : ofSource settings source = .ok c) :
    c.objects.length = (Block.ofSource source).length := by
  rw [length_of_mapM_ok (ofSource_eq_ok h).1, List.length_zipIdx, List.length_filterMap_eq_countP]
  exact List.countP_eq_length.2 fun b hb => Block.isSome_ofLines?_of_mem_ofSource hb

/-- The object at the place of a block is the one that is read from the lines of the block. -/
theorem exists_object_of_reading (h : ofSource settings source = .ok c) {k : Nat} {b : Block}
    {r : Reading} (hb : (Block.ofSource source)[k]? = some b)
    (read : Reading.ofLines? b.lines = some r) :
    ∃ o, c.objects[k]? = some o ∧ o.object = r.object ∧
      Scene.ofObject o.object k settings = .ok o.scene := by
  -- All blocks are read, so that the readings have the numbers of their blocks.
  have reading : ((Block.ofSource source).filterMap fun b => Reading.ofLines? b.lines)[k]? =
      some r := by
    rw [getElem?_filterMap_of_isSome fun b hb => Block.isSome_ofLines?_of_mem_ofSource hb, hb]
    exact read
  obtain ⟨o, ho, built⟩ := getElem?_of_mapM_ok (ofSource_eq_ok h).1 (k := k) (x := (r, k))
    (by simp [List.getElem?_zipIdx, reading])
  obtain ⟨same, -, scene⟩ := buildObject_eq_ok built
  exact ⟨o, ho, same, same ▸ scene⟩

/-- The object of a block is made of the statements of its lines. -/
theorem exists_object (h : ofSource settings source = .ok c) {k : Nat} {b : Block}
    (hb : (Block.ofSource source)[k]? = some b) :
    ∃ o objectType, c.objects[k]? = some o ∧
      o.object = Object.ofStatements objectType (b.lines.filterMap NumberedLine.statement?) ∧
      Scene.ofObject o.object k settings = .ok o.scene := by
  have nonempty := Block.lines_ne_nil_of_mem_split (List.mem_of_getElem? hb)
  obtain ⟨r, objectType, read, object, -⟩ := Reading.ofLines?_of_ne_nil nonempty
  obtain ⟨o, ho, same, scene⟩ := exists_object_of_reading h hb read
  exact ⟨o, objectType, ho, same.trans object, scene⟩

/-- Every object is that of a block. -/
theorem exists_block (h : ofSource settings source = .ok c) {k : Nat} {o : BuiltObject}
    (ho : c.objects[k]? = some o) :
    ∃ b objectType, (Block.ofSource source)[k]? = some b ∧
      o.object = Object.ofStatements objectType (b.lines.filterMap NumberedLine.statement?) ∧
      Scene.ofObject o.object k settings = .ok o.scene := by
  have inside : k < (Block.ofSource source).length := by
    rw [← length_objects h]
    exact lt_length_of_getElem? ho
  have hb := List.getElem?_eq_getElem inside
  obtain ⟨o', objectType, ho', object, scene⟩ := exists_object h hb
  obtain rfl : o' = o := Option.some.inj (ho'.symm.trans ho)
  exact ⟨_, objectType, hb, object, scene⟩

theorem scene_eq (h : ofSource settings source = .ok c) {k : Nat} {o : BuiltObject}
    (ho : c.objects[k]? = some o) : Scene.ofObject o.object k settings = .ok o.scene := by
  obtain ⟨-, -, -, -, scene⟩ := exists_block h ho
  exact scene

theorem exists_scene_eq (h : ofSource settings source = .ok c) {o : BuiltObject}
    (ho : o ∈ c.objects) : ∃ k, Scene.ofObject o.object k settings = .ok o.scene := by
  obtain ⟨k, hk⟩ := List.getElem?_of_mem ho
  exact ⟨k, scene_eq h hk⟩

theorem dropped_eq (h : ofSource settings source = .ok c) :
    c.dropped =
      (Block.ofSource source).flatMap fun b => b.lines.filterMap NumberedLine.dropped? := by
  rw [(ofSource_eq_ok h).2]
  have nonempty : ∀ b ∈ Block.ofSource source, b.lines ≠ [] := fun b hb =>
    Block.lines_ne_nil_of_mem_split hb
  -- That no block is empty is all that the induction needs to know of them.
  generalize Block.ofSource source = blocks at nonempty
  induction blocks with
  | nil => rfl
  | cons b blocks ih =>
    obtain ⟨r, -, read, -, dropped⟩ :=
      Reading.ofLines?_of_ne_nil (nonempty b List.mem_cons_self)
    rw [List.filterMap_cons_some (f := fun b : Block => Reading.ofLines? b.lines) read,
      List.flatMap_cons, List.flatMap_cons, dropped,
      ih fun b' hb' => nonempty b' (List.mem_cons_of_mem _ hb')]

/-- The blocks make no difference to the report: it is that of the lines. -/
theorem dropped_eq_filterMap (h : ofSource settings source = .ok c) :
    c.dropped = (NumberedLine.ofSource source).filterMap NumberedLine.dropped? := by
  rw [dropped_eq h, ← Block.flatMap_lines_split (NumberedLine.ofSource source),
    List.filterMap_flatMap]
  rfl

end Compilation

end LayeredScene
