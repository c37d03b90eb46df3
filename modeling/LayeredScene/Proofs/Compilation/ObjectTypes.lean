import LayeredScene.Proofs.Compilation.Objects
import LayeredScene.Proofs.Object.Layers
import LayeredScene.Proofs.Scene.ResourceNames
import LayeredScene.Proofs.Source.BlockTypes
import LayeredScene.Proofs.Source.KeylessLines
import LayeredScene.Proofs.Statement.Commands

/-! # The type of an object and that of its block

The splitter and the reader find the type of a run of lines in different ways: the one takes it from
the lines with a separator, the other from the first line that gives a statement and otherwise from
the first line of all.  `exists_deciding` reduces the second to one line, and `Typed` says what the
lines of a block can lead with, so that the two types are the same if this line has a separator and
does not lead with nothing.  A first line without a separator gives the object its whole text, even
if the block has a type from a later line.
-/

namespace LayeredScene

/-! ## Statements -/

namespace NumberedLine

/-- A statement has the type that its line leads with. -/
theorem leadingType?_of_statement {l : NumberedLine} {s : Statement} (h : l.statement? = some s) :
    l.leadingType? = some s.objectType := by
  unfold statement? Statement.ofLine at h
  split at h
  · next objectType layer commands rest parts =>
    simp only [Except.toOption, Option.some.injEq] at h
    rw [leadingType?, parts, ← h, Statement.ofSegments, Statement.objectType_foldl_apply]
    rfl
  · cases h

/-- The line that decides the type of an object: the first one that gives a statement, or else the
    first of all. -/
def deciding? (lines : List NumberedLine) : Option NumberedLine :=
  (lines.find? (·.statement?.isSome)).or lines.head?

end NumberedLine

/-! ## Objects -/

theorem Object.objectType_ofStatements (objectType : String) (statements : List Statement) :
    (ofStatements objectType statements).objectType = objectType :=
  foldl_push_kept (·.objectType) (fun _ _ => rfl) statements _

namespace Reading

/-- The type of an object is what the deciding line leads with.  Only a first line can decide
    without a separator, and only if no line gives a statement; then its text is the type. -/
theorem exists_deciding {lines : List NumberedLine} {r : Reading} (read : ofLines? lines = some r) :
    ∃ d ∈ lines, NumberedLine.deciding? lines = some d ∧
      r.object.objectType = d.leadingType?.getD (Text.upper d.text) ∧
      (d.isKeyed = false →
        lines.head? = some d ∧ lines.filterMap NumberedLine.statement? = []) := by
  cases lines with
  | nil => cases read
  | cons first rest =>
    obtain rfl := Option.some.inj read
    simp only [Object.objectType_ofStatements, NumberedLine.deciding?]
    cases found : (first :: rest).find? (·.statement?.isSome) with
    | none =>
      have none : (first :: rest).filterMap NumberedLine.statement? = [] := by
        rw [List.filterMap_eq_nil_iff]
        simpa using found
      exact ⟨first, List.mem_cons_self, rfl, by rw [none]; rfl, fun _ => ⟨rfl, none⟩⟩
    | some d =>
      obtain ⟨gives, before, after, lines, none⟩ := List.find?_eq_some_iff_append.mp found
      obtain ⟨s, hs⟩ := Option.isSome_iff_exists.mp gives
      have leads := NumberedLine.leadingType?_of_statement hs
      have nothing : before.filterMap NumberedLine.statement? = [] := by
        rw [List.filterMap_eq_nil_iff]
        simpa using none
      refine ⟨d, by simp [lines], rfl, ?_, fun keyless => ?_⟩
      · rw [lines, List.filterMap_append, nothing, List.nil_append,
          List.filterMap_cons_some hs, leads]
        rfl
      · -- A line that gives a statement has a separator.
        rw [NumberedLine.leadingType?_of_keyless keyless] at leads
        cases leads

end Reading

/-! ## Blocks -/

namespace Block

/-- A line with a separator leads with the type of its block or with nothing. -/
theorem Typed.leadingType_eq {b : Block} (typed : b.Typed) {l : NumberedLine} (hl : l ∈ b.lines)
    {objectType : String} (leads : l.leadingType? = some objectType) :
    objectType = "" ∨ objectType = b.objectType := by
  obtain ⟨untyped, own, types, -⟩ := typed
  have listed : objectType ∈ leadingTypes b.lines := List.mem_filterMap.mpr ⟨l, hl, leads⟩
  rw [types, List.mem_append, List.mem_replicate, List.mem_replicate] at listed
  exact listed.imp And.right And.right

end Block

namespace BuiltObject

/-- The object has a type, and its scene names it by that type everywhere: in the header, in the
    root, and in the names from which the identifiers of its resources are derived. -/
structure TypedAs (x : BuiltObject) (k : Nat) (objectType : String) : Prop where
  object : x.object.objectType = objectType
  header : x.scene.header.objectType = objectType
  root : x.scene.root.name = objectType
  names : ∀ n ∈ ResourceName.ofObject x.object k, n.objectType = objectType
  uuids : x.scene.uuids = (ResourceName.ofObject x.object k).map ResourceName.uuid

theorem typedAs_of_ofObject {settings : Settings} {x : BuiltObject} {k : Nat}
    (h : Scene.ofObject x.object k settings = .ok x.scene) : x.TypedAs k x.object.objectType where
  object := rfl
  header := by
    obtain ⟨meshes, -, scene⟩ := Scene.ofObject_eq_ok h
    rw [scene]
    rfl
  root := by
    obtain ⟨meshes, -, scene⟩ := Scene.ofObject_eq_ok h
    rw [scene]
    rfl
  names n hn := by
    simp only [ResourceName.ofObject, ResourceName.ofKind, List.mem_append, List.mem_map] at hn
    rcases hn with ⟨_, -, rfl⟩ | ⟨_, -, rfl⟩ <;> rfl
  uuids := Scene.uuids_eq h

end BuiltObject

namespace Compilation

/-- The object of a block has the type of the block if the line that decides its type has a
    separator, and leads with nothing only where the block has no type either.  If that line has no
    separator, then no line of the block gives a statement, the line is the first one, and the type
    of the object is its text.  The compilation and its scene carry that type wherever a type is
    named. -/
theorem objectType_of_block {source : String} {k : Nat} {b : Block}
    (hb : (Block.ofSource source)[k]? = some b) :
    ∃ r d, Reading.ofLines? b.lines = some r ∧ NumberedLine.deciding? b.lines = some d ∧
      (d.isKeyed → (d.leadingType? = some "" → b.objectType = "") →
        r.object.objectType = b.objectType) ∧
      (d.isKeyed = false → b.lines.head? = some d ∧
        b.lines.filterMap NumberedLine.statement? = [] ∧
        r.object.objectType = Text.upper d.text) ∧
      ∀ settings c, ofSource settings source = .ok c →
        ∃ x, c.objects[k]? = some x ∧ x.object = r.object ∧ x.TypedAs k r.object.objectType := by
  have member := List.mem_of_getElem? hb
  obtain ⟨r, -, read, -⟩ := Reading.ofLines?_of_ne_nil (Block.lines_ne_nil_of_mem_split member)
  obtain ⟨d, hd, decides, objectType, keyless⟩ := Reading.exists_deciding read
  refine ⟨r, d, read, decides, fun keyed untyped => ?_, fun none => ?_, fun settings c h => ?_⟩
  · obtain ⟨leading, leads⟩ := NumberedLine.exists_leadingType keyed
    rw [objectType, leads, Option.getD_some]
    rcases (Block.typed_of_mem_split member).leadingType_eq hd leads with rfl | same
    · exact (untyped leads).symm
    · exact same
  · obtain ⟨first, nothing⟩ := keyless none
    rw [objectType, NumberedLine.leadingType?_of_keyless none]
    exact ⟨first, nothing, rfl⟩
  · obtain ⟨x, hx, object, scene⟩ := exists_object_of_reading h hb read
    exact ⟨x, hx, object, object ▸ BuiltObject.typedAs_of_ofObject scene⟩

/-- The first line of this block is no statement and has no separator, and the second is none
    either: the line that gives a statement is the last one, and it decides. -/
theorem objectType_of_block_lamp :
    ∃ b r, (Block.ofSource "noise\nLAMP > base\nLAMP > base > cone")[0]? = some b ∧
      Reading.ofLines? b.lines = some r ∧ r.object.objectType = b.objectType ∧
      b.objectType = "LAMP" := by
  have hb : (Block.ofSource "noise\nLAMP > base\nLAMP > base > cone")[0]? =
      some ⟨"LAMP", [⟨1, "noise"⟩, ⟨2, "LAMP > base"⟩, ⟨3, "LAMP > base > cone"⟩]⟩ := by
    decide +kernel
  obtain ⟨r, d, read, decides, keyed, -⟩ := objectType_of_block hb
  have last : NumberedLine.deciding?
      [⟨1, "noise"⟩, ⟨2, "LAMP > base"⟩, ⟨3, "LAMP > base > cone"⟩] =
      some ⟨3, "LAMP > base > cone"⟩ := by decide +kernel
  obtain rfl := Option.some.inj (decides.symm.trans last)
  exact ⟨_, r, hb, read, keyed (by decide +kernel) (by decide +kernel), rfl⟩

/-- A block whose first line has no separator and that has no statement has an object with that line
    for its type, and not the type that its second line gives the block. -/
theorem objectType_ne_of_stray_line :
    ¬ ∀ (source : String), ∀ b ∈ Block.ofSource source, (∃ l ∈ b.lines, l.isKeyed) →
      ∀ r, Reading.ofLines? b.lines = some r → r.object.objectType = b.objectType := by
  intro same
  have stray := same "stray words\nLAMP > base"
    ⟨"LAMP", [⟨1, "stray words"⟩, ⟨2, "LAMP > base"⟩]⟩ (by decide +kernel) (by decide +kernel) _ rfl
  exact absurd stray (by decide +kernel)

end Compilation

end LayeredScene
