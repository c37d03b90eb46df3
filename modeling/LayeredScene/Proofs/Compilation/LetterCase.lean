import LayeredScene.Proofs.Scene.LetterCase
import LayeredScene.Proofs.Source.LetterCase
import LayeredScene.Proofs.Compilation.Objects

/-! # Letter case does not change what a source text compiles to

Compiling a source text with its letters in lower case gives the compilation of the source text
itself, up to the arguments and the dropped lines that are kept as they are written.  So two source
texts that differ only in letter case both have a compilation or neither has, and the compilations
show the same scenes.
-/

namespace LayeredScene

open Text (lowerAscii)

/-! ## Readings -/

namespace Reading

def foldCase (r : Reading) : Reading :=
  { object := r.object.foldCase, dropped := r.dropped.map DroppedLine.foldCase }

theorem objectType_foldCase (statements : List Statement) (first : NumberedLine) :
    objectType (statements.map Statement.foldCase) first.foldCase =
      objectType statements first := by
  cases statements with
  | nil =>
    simp only [objectType, List.map_nil, NumberedLine.leadingType?_foldCase]
    rw [NumberedLine.foldCase, Text.upper_lowerAscii]
  | cons s statements => rfl

theorem ofLines?_foldCase (lines : List NumberedLine) :
    ofLines? (lines.map NumberedLine.foldCase) = (ofLines? lines).map foldCase := by
  cases lines with
  | nil => rfl
  | cons first rest =>
    rw [List.map_cons, ofLines?, ← List.map_cons,
      filterMap_map_comm NumberedLine.statement?_foldCase,
      filterMap_map_comm NumberedLine.dropped?_foldCase, objectType_foldCase,
      Object.ofStatements_foldCase]
    rfl

end Reading

/-! ## Compilations -/

def BuiltObject.foldCase (b : BuiltObject) : BuiltObject :=
  { b with object := b.object.foldCase }

namespace Compilation

def foldCase (c : Compilation) : Compilation :=
  { objects := c.objects.map BuiltObject.foldCase
    dropped := c.dropped.map DroppedLine.foldCase }

theorem buildObject_foldCase (settings : Settings) (o : Object) (block : Nat) :
    buildObject settings o.foldCase block =
      BuiltObject.foldCase <$> buildObject settings o block := by
  rw [buildObject, Scene.ofObject_foldCase, Object.outline_foldCase, buildObject]
  cases Scene.ofObject o block settings <;> rfl

theorem ofReadings_foldCase (settings : Settings) (readings : List Reading) :
    ofReadings settings (readings.map Reading.foldCase) =
      foldCase <$> ofReadings settings readings := by
  have dropped : (readings.map Reading.foldCase).flatMap (·.dropped) =
      (readings.flatMap (·.dropped)).map DroppedLine.foldCase := by
    rw [List.flatMap_map, List.map_flatMap]
    rfl
  have objects : (readings.map Reading.foldCase).zipIdx.mapM
      (fun r => buildObject settings r.1.object r.2) = List.map BuiltObject.foldCase <$>
        readings.zipIdx.mapM fun r => buildObject settings r.1.object r.2 := by
    rw [List.zipIdx_map, List.mapM_map, ← mapM_map_result]
    exact mapM_congr fun r _ => buildObject_foldCase settings r.1.object r.2
  rw [ofReadings_eq_map, objects, dropped, ofReadings_eq_map, Functor.map_map, Functor.map_map]
  rfl

/-- The compilation of a source text with its letters in lower case. -/
theorem ofSource_lowerAscii (settings : Settings) (source : String) :
    ofSource settings (lowerAscii source) = foldCase <$> ofSource settings source := by
  have reading (b : Block) :
      Reading.ofLines? b.foldCase.lines = (Reading.ofLines? b.lines).map Reading.foldCase :=
    Reading.ofLines?_foldCase b.lines
  rw [ofSource, Block.ofSource_lowerAscii,
    filterMap_map_comm (q := fun b : Block => Reading.ofLines? b.lines) reading,
    ofReadings_foldCase, ofSource]

/-- The compilations show the same and are the same, except for the letter case of what objects and
    dropped lines keep of the source. -/
structure SameButCase (c d : Compilation) : Prop where
  count : c.objects.length = d.objects.length
  objects : List.Forall₂ (fun x y => x.scene = y.scene ∧ x.outline = y.outline ∧
    Object.SameButCase x.object y.object) c.objects d.objects
  dropped : List.Forall₂ DroppedLine.SameButCase c.dropped d.dropped

theorem sameButCase_of_foldCase_eq {c d : Compilation} (same : c.foldCase = d.foldCase) :
    SameButCase c d := by
  obtain ⟨objects, dropped⟩ := Compilation.mk.inj same
  rw [map_eq_map_iff_forall₂] at objects dropped
  refine ⟨objects.length_eq, objects.imp fun x y same => ?_, dropped.imp fun _ _ =>
    DroppedLine.sameButCase_of_foldCase_eq⟩
  obtain ⟨object, scene, outline⟩ := BuiltObject.mk.inj same
  exact ⟨scene, outline, Object.sameButCase_of_foldCase_eq object⟩

/-- Source texts that differ only in letter case compile to the same, or both do not compile. -/
theorem ofSource_of_sameButCase (settings : Settings) {a b : String}
    (same : Text.SameButCase a b) :
    (∃ c d, ofSource settings a = .ok c ∧ ofSource settings b = .ok d ∧ SameButCase c d) ∨
    ∃ e, ofSource settings a = .error e ∧ ofSource settings b = .error e := by
  have folded : foldCase <$> ofSource settings a = foldCase <$> ofSource settings b := by
    rw [← ofSource_lowerAscii, ← ofSource_lowerAscii, Text.sameButCase_iff.mp same]
  refine (ok_ok_or_error_error folded).imp_left ?_
  rintro ⟨c, d, ha, hb, same⟩
  exact ⟨c, d, ha, hb, sameButCase_of_foldCase_eq same⟩

/-- The name of another part and a dropped line are kept as they are written. -/
theorem ofSource_of_sameButCase_attached :
    ∃ c d, ofSource {} "Lamp > BASE > sphere attach Pole\nNo segments" = .ok c ∧
      ofSource {} "LAMP > base > Sphere ATTACH pole\nno SEGMENTS" = .ok d ∧ SameButCase c d ∧
      c.dropped.map (·.line.text) = ["No segments"] ∧
      d.dropped.map (·.line.text) = ["no SEGMENTS"] := by
  obtain ⟨c, hc, first⟩ := exists_eq_ok_of
    (x := ofSource {} "Lamp > BASE > sphere attach Pole\nNo segments")
    (p := fun c => c.dropped.map (·.line.text) = ["No segments"]) (by decide +kernel)
  obtain ⟨d, hd, second⟩ := exists_eq_ok_of
    (x := ofSource {} "LAMP > base > Sphere ATTACH pole\nno SEGMENTS")
    (p := fun d => d.dropped.map (·.line.text) = ["no SEGMENTS"]) (by decide +kernel)
  have same : Text.SameButCase "Lamp > BASE > sphere attach Pole\nNo segments"
      "LAMP > base > Sphere ATTACH pole\nno SEGMENTS" :=
    Text.sameButCase_iff.mpr (by decide +kernel)
  rcases ofSource_of_sameButCase {} same with ⟨c', d', hc', hd', alike⟩ | ⟨e, failed, -⟩
  · rw [hc, Except.ok.injEq] at hc'
    rw [hd, Except.ok.injEq] at hd'
    subst hc' hd'
    exact ⟨c, d, hc, hd, alike, of_decide_eq_true first, of_decide_eq_true second⟩
  · rw [hc] at failed
    cases failed

end Compilation

end LayeredScene
