import LayeredScene.Proofs.Compilation.Concatenation
import LayeredScene.Proofs.Source.Layout

/-! # The layout of a source text does not matter

Of the lines of a source text only those that count are compiled, and of these only their texts
matter; their numbers are told in the report and nowhere else.  So a text whose layout is edited has
the same objects, and its report is the same up to the numbers of the lines.
-/

namespace LayeredScene

namespace Compilation

/-- Lines with the same texts under other numbers compile to the same, up to the numbers that the
    report tells. -/
theorem ofSource_of_map_lines (settings : Settings) {f : NumberedLine → NumberedLine}
    (same : ∀ l, (f l).text = l.text) {source source' : String}
    (lines : NumberedLine.ofSource source' = (NumberedLine.ofSource source).map f) :
    ofSource settings source' =
      (fun c => { c with dropped := c.dropped.map (DroppedLine.mapLine f) }) <$>
        ofSource settings source := by
  have leads (l : NumberedLine) : (f l).leadingType? = l.leadingType? :=
    NumberedLine.leadingType?_congr (same l)
  have readings : Reading.ofBlocks (Block.ofSource source') =
      (Reading.ofBlocks (Block.ofSource source)).map (Reading.mapLines f) := by
    rw [Block.ofSource, lines, Block.split_map leads, Reading.ofBlocks_mapLines same,
      Block.ofSource]
  have objects : ((Reading.ofBlocks (Block.ofSource source)).map (Reading.mapLines f)).map
      (·.object) = (Reading.ofBlocks (Block.ofSource source)).map (·.object) :=
    List.map_map ..
  have dropped : ((Reading.ofBlocks (Block.ofSource source)).map (Reading.mapLines f)).flatMap
      (·.dropped) = ((Reading.ofBlocks (Block.ofSource source)).flatMap (·.dropped)).map
        (DroppedLine.mapLine f) := by
    rw [List.flatMap_map, List.map_flatMap]
    rfl
  rw [ofSource_eq_objectsFrom, ofSource_eq_objectsFrom, readings, objects, dropped,
    Functor.map_map]

/-- After edits of its layout a source text has the same lines that count, under the numbers that
    the edits give them.  It compiles to the same objects, and its report has the same entries in
    the same order, under the new numbers; or neither text compiles. -/
theorem layout_inert (settings : Settings) {f : Nat → Nat} {source source' : String}
    (relaid : Relaid f source source') :
    NumberedLine.ofSource source' =
      (NumberedLine.ofSource source).map (NumberedLine.renumber f) ∧
    ((∃ c d, ofSource settings source = .ok c ∧ ofSource settings source' = .ok d ∧
      d.objects = c.objects ∧
      d.dropped = c.dropped.map (DroppedLine.mapLine (NumberedLine.renumber f))) ∨
    ∃ e, ofSource settings source = .error e ∧ ofSource settings source' = .error e) := by
  have lines := NumberedLine.ofSource_of_relaid relaid
  have compiled := ofSource_of_map_lines settings
    (f := NumberedLine.renumber f) (fun _ => rfl) lines
  refine ⟨lines, ?_⟩
  rw [compiled]
  cases ofSource settings source with
  | ok c => exact .inl ⟨c, _, rfl, rfl, rfl, rfl⟩
  | error e => exact .inr ⟨e, rfl, rfl⟩

/-- A comment is put in front, the line end gets a carriage return, and the line that is dropped
    gets blank space in front of it. -/
theorem layout_inert_box :
    ∃ c d, ofSource {} "BOX > side > cube\nBOX" = .ok c ∧
      ofSource {} " # lid\nBOX > side > cube\r\n\tBOX" = .ok d ∧ d.objects = c.objects ∧
      c.dropped.map (·.line) = [⟨2, "BOX"⟩] ∧ d.dropped.map (·.line) = [⟨3, "BOX"⟩] := by
  have comment : IsSkipped " # lid" := by
    have visible : (" # lid".toList.dropWhile Text.isBlank).head? = some '#' := by decide +kernel
    refine ⟨by decide, fun c first => ?_⟩
    rw [visible] at first
    exact (Option.some.inj first).symm
  have tab : IsGap "\t" := by simp [IsGap]; decide
  have inserted : LayoutEdit (madeRoom 0) "BOX > side > cube\nBOX"
      (" # lid" ++ "\n" ++ "BOX > side > cube\nBOX") := by
    have edit : LayoutEdit (madeRoom 0) ("" ++ "BOX > side > cube\nBOX")
        ("" ++ " # lid" ++ "\n" ++ "BOX > side > cube\nBOX") := .insertLine (.inl rfl) comment
    rw [String.empty_append, String.empty_append] at edit
    exact edit
  have returned : LayoutEdit id (" # lid" ++ "\n" ++ "BOX > side > cube\nBOX")
      (" # lid\nBOX > side > cube" ++ "\r\n" ++ "BOX") := by
    have cut : " # lid" ++ "\n" ++ "BOX > side > cube\nBOX" =
        " # lid\nBOX > side > cube" ++ "\n" ++ "BOX" := by decide +kernel
    rw [cut]
    exact .carriageReturn
  have spaced : LayoutEdit id (" # lid\nBOX > side > cube" ++ "\r\n" ++ "BOX")
      " # lid\nBOX > side > cube\r\n\tBOX" := by
    have cut : " # lid\nBOX > side > cube\r\n\tBOX" =
        " # lid\nBOX > side > cube" ++ "\r\n" ++ "\t" ++ "BOX" := by decide +kernel
    rw [cut]
    exact .spaceBefore (.inr ⟨" # lid\nBOX > side > cube\r", by decide +kernel⟩) tab
  have relaid := (((Relaid.unchanged _).edited inserted).edited returned).edited spaced
  obtain ⟨c, hc, dropped⟩ := exists_eq_ok_of (x := ofSource {} "BOX > side > cube\nBOX")
    (p := fun c => c.dropped.map (·.line) = [⟨2, "BOX"⟩]) (by decide +kernel)
  have dropped := of_decide_eq_true dropped
  obtain ⟨-, ⟨c', d, hc', hd, objects, renumbered⟩ | ⟨e, failed, -⟩⟩ := layout_inert {} relaid
  · cases hc'.symm.trans hc
    refine ⟨c, d, hc, hd, objects, dropped, ?_⟩
    have moved := congrArg (List.map (NumberedLine.renumber (madeRoom 0))) dropped
    rw [List.map_map] at moved
    rw [renumbered, List.map_map]
    exact moved
  · rw [hc] at failed
    cases failed

end Compilation

end LayeredScene
