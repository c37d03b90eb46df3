import LayeredScene.Proofs.Compilation.Accounting
import LayeredScene.Proofs.Compilation.Outlines
import LayeredScene.Proofs.Scene.Lookups

/-! # The lines of a summary

The summary has a line for every object, with the lines of its layers behind it, and then the lines
that were dropped.  All names in it are lines of the source text, so that a line feed only stands
behind a line: `lines_summaryText` says that these are the lines of the text.  The number of
vertices that the line of a layer gives is found by looking up the geometries of its bodies.  While
identifiers are distinct it is the sum of what is generated for the statements (`summarizedBy`).
-/

namespace LayeredScene.Compilation

open Text (IsLine isLine_append)

variable {settings : Settings} {source : String} {c : Compilation}

/-! ## Lines -/

def spaces (n : Nat) : String := String.ofList (List.replicate n ' ')

def objectLine (o : Object) : String :=
  o.objectType ++ " (" ++ (if o.isComposite then "layered composite" else "object") ++ ", " ++
    o.precision.title ++ " precision): " ++ toString o.layerCount ++ " layer(s), " ++
    toString o.statementCount ++ " statement(s)"

/-- The line of a layer: its name at the left of a column, and the numbers of its bodies and of
    their vertices at the right of theirs. -/
def layerLine (name : String) (bodies vertices : Nat) (toggleable : Bool) : String :=
  "  " ++ name ++ spaces (16 - name.length) ++ " " ++
    spaces (3 - (toString bodies).length) ++ toString bodies ++ " mesh(es) " ++
    spaces (7 - (toString vertices).length) ++ toString vertices ++ " vertices" ++
    if toggleable then "  [toggleable]" else ""

example : layerLine "skin" 2 64 true =
    "  skin               2 mesh(es)      64 vertices  [toggleable]" := by decide +kernel

/-- The lines of an object and its layers. -/
def linesOf (o : BuiltObject) : List String :=
  objectLine o.object :: o.scene.root.children.map fun l =>
    layerLine l.name l.children.length (layerVertices o.scene l) l.info.toggleable

/-- The lines about the lines that were dropped. -/
def droppedLines (c : Compilation) : List String :=
  if c.dropped.isEmpty then []
  else (toString c.dropped.length ++ " line(s) dropped:") ::
    c.dropped.map fun d => "  " ++ d.message

/-! ## The text -/

theorem summarizeObject_eq (o : Object) : summarizeObject o = objectLine o ++ "\n" := by
  unfold summarizeObject objectLine
  simp only [String.append_assoc]
  rfl

theorem summarizeLayer_eq (s : Scene) (l : LayerNode) : summarizeLayer s l =
    layerLine l.name l.children.length (layerVertices s l) l.info.toggleable ++ "\n" := by
  unfold summarizeLayer layerLine padRight padLeft spaces
  simp only [String.append_assoc]

theorem join_linesOf (o : BuiltObject) : String.join ((linesOf o).map (· ++ "\n")) =
    summarizeObject o.object ++ String.join (o.scene.root.children.map (summarizeLayer o.scene)) := by
  rw [linesOf, List.map_cons, String.join_cons, ← summarizeObject_eq, List.map_map]
  exact congrArg (fun lines => summarizeObject o.object ++ String.join lines)
    (List.map_congr_left fun l _ => (summarizeLayer_eq o.scene l).symm)

theorem join_droppedLines (c : Compilation) : String.join (c.droppedLines.map (· ++ "\n")) =
    if (c.dropped.map fun d => "  " ++ d.message ++ "\n").isEmpty then ""
    else toString (c.dropped.map fun d => "  " ++ d.message ++ "\n").length ++
      " line(s) dropped:\n" ++ String.join (c.dropped.map fun d => "  " ++ d.message ++ "\n") := by
  rw [droppedLines, List.isEmpty_map, List.length_map]
  split
  · rfl
  · have feed : " line(s) dropped:\n" = " line(s) dropped:" ++ "\n" := rfl
    rw [List.map_cons, String.join_cons, List.map_map, feed, ← String.append_assoc]
    rfl

/-- The text has a line feed behind each of its lines. -/
theorem summaryText_eq (c : Compilation) : c.summaryText =
    String.join ((c.objects.flatMap linesOf ++ c.droppedLines).map (· ++ "\n")) := by
  have objects : ∀ os : List BuiltObject, String.join ((os.flatMap linesOf).map (· ++ "\n")) =
      String.join (os.map fun o => summarizeObject o.object ++
        String.join (o.scene.root.children.map (summarizeLayer o.scene))) := by
    intro os
    induction os with
    | nil => rfl
    | cons o os ih =>
      rw [List.flatMap_cons, List.map_append, String.join_append, join_linesOf, ih, List.map_cons,
        String.join_cons]
  rw [List.map_append, String.join_append, objects, join_droppedLines, summaryText]

/-! ## No line feeds within the lines -/

theorem isLine_toString (n : Nat) : IsLine (toString n) :=
  notMem_toString_of_isDigit (by decide) n

theorem isLine_spaces (n : Nat) : IsLine (spaces n) := by
  rw [IsLine, spaces, String.toList_ofList, List.mem_replicate]
  exact fun feed => absurd feed.2 (by decide)

theorem isLine_objectLine {o : Object} (named : IsLine o.objectType) : IsLine (objectLine o) := by
  have kind : IsLine (if o.isComposite then "layered composite" else "object") := by
    split <;> decide
  have precision : IsLine o.precision.title := by cases o.precision <;> decide
  unfold objectLine
  simp only [isLine_append, named, kind, precision, isLine_toString, true_and, and_true]
  decide

theorem isLine_layerLine {name : String} (named : IsLine name) (bodies vertices : Nat)
    (toggleable : Bool) : IsLine (layerLine name bodies vertices toggleable) := by
  have mark : IsLine (if toggleable then "  [toggleable]" else "") := by split <;> decide
  unfold layerLine
  simp only [isLine_append, named, mark, isLine_toString, isLine_spaces, and_true]
  decide

theorem isLine_message {d : DroppedLine} (line : IsLine d.line.text) : IsLine d.message := by
  unfold DroppedLine.message TooFewSegments.message
  simp only [isLine_append, line, isLine_toString, and_true]
  decide +kernel

/-- A line is ended by the text that is at its end. -/
theorem getLast?_append_ne {s t : String} (some : t.toList ≠ [])
    (ends : t.toList.getLast? ≠ Option.some '\r') :
    (s ++ t).toList.getLast? ≠ Option.some '\r' := by
  rwa [String.toList_append, List.getLast?_append_of_ne_nil _ some]

theorem getLast?_layerLine (name : String) (bodies vertices : Nat) (toggleable : Bool) :
    (layerLine name bodies vertices toggleable).toList.getLast? ≠ some '\r' := by
  unfold layerLine
  cases toggleable with
  | true => exact getLast?_append_ne (by decide) (by decide)
  | false =>
    rw [if_neg Bool.false_ne_true, String.append_empty]
    exact getLast?_append_ne (by decide) (by decide)

/-! ## The lines of the text -/

/-- The lines of an object are lines, and no carriage return gets lost at their ends. -/
theorem isLine_of_mem_linesOf (h : ofSource settings source = .ok c) {o : BuiltObject}
    (ho : o ∈ c.objects) {line : String} (hl : line ∈ linesOf o) :
    IsLine line ∧ line.toList.getLast? ≠ some '\r' := by
  obtain ⟨objectType, layers⟩ := isLine_names h ho
  rw [linesOf, List.mem_cons, List.mem_map] at hl
  obtain rfl | ⟨node, hnode, rfl⟩ := hl
  · exact ⟨isLine_objectLine objectType, getLast?_append_ne (by decide) (by decide)⟩
  · obtain ⟨k, scene⟩ := exists_scene_eq h ho
    -- The nodes have the names of the layers.
    have names : o.object.layers.map (·.name) = o.scene.root.children.map (·.name) :=
      map_eq_map_iff_forall₂.mpr
        ((Scene.forall₂_isNodeOf scene).imp fun _ _ node => node.name.symm)
    have named : node.name ∈ o.object.layers.map (·.name) := names ▸ List.mem_map_of_mem hnode
    obtain ⟨l, hl, same⟩ := List.mem_map.mp named
    exact ⟨isLine_layerLine (same ▸ layers l hl) _ _ _, getLast?_layerLine _ _ _ _⟩

/-- So are the lines about what was dropped. -/
theorem isLine_of_mem_droppedLines (h : ofSource settings source = .ok c) {line : String}
    (hl : line ∈ c.droppedLines) : IsLine line ∧ line.toList.getLast? ≠ some '\r' := by
  unfold droppedLines at hl
  split at hl
  · cases hl
  · rw [List.mem_cons, List.mem_map] at hl
    obtain rfl | ⟨d, hd, rfl⟩ := hl
    · exact ⟨isLine_append.mpr ⟨isLine_toString _, by decide⟩,
        getLast?_append_ne (by decide) (by decide)⟩
    · rw [dropped_eq_filterMap h, List.mem_filterMap] at hd
      obtain ⟨l, hl, dropped⟩ := hd
      obtain ⟨-, rfl⟩ := NumberedLine.dropped?_eq_some_iff.mp dropped
      refine ⟨isLine_append.mpr ⟨by decide, isLine_message (NumberedLine.isLine_text hl)⟩, ?_⟩
      unfold DroppedLine.message
      rw [← String.append_assoc]
      exact getLast?_append_ne (by decide) (by decide)

theorem lines_summaryText (h : ofSource settings source = .ok c) :
    Text.lines c.summaryText = c.objects.flatMap linesOf ++ c.droppedLines := by
  have whole : ∀ line ∈ c.objects.flatMap linesOf ++ c.droppedLines,
      IsLine line ∧ line.toList.getLast? ≠ some '\r' := by
    intro line hl
    rw [List.mem_append, List.mem_flatMap] at hl
    obtain ⟨o, ho, hl⟩ | hl := hl
    · exact isLine_of_mem_linesOf h ho hl
    · exact isLine_of_mem_droppedLines h hl
  rw [summaryText_eq]
  exact Text.lines_join_ended (fun line hl => (whole line hl).1) fun line hl => (whole line hl).2

/-! ## The vertices of a layer -/

/-- Lines about an object and its layers.  That of a layer gives the number of its statements and
    the sum of the vertices that are generated for them. -/
structure SummarizedBy (settings : Settings) (o : Object) (lines : List String) : Prop where
  object : lines.head? = some (objectLine o)
  layers : List.Forall₂
    (fun l line => ∃ own, l.statements.mapM (fun s => Mesh.ofStatement s settings.mesh) = .ok own ∧
      line = layerLine l.name l.statements.length (own.map (·.vertices.length)).sum o.isComposite)
    o.layers lines.tail

theorem summarizedBy {o : BuiltObject} {k : Nat}
    (h : Scene.ofObject o.object k settings = .ok o.scene) (distinct : o.scene.uuids.Nodup) :
    SummarizedBy settings o.object (linesOf o) where
  object := rfl
  layers := by
    have layers := (Scene.forall₂_isNodeOf h).length_eq
    rw [linesOf, List.tail_cons]
    refine forall₂_of_getElem? (by rw [layers, List.length_map]) fun j l line hl hline => ?_
    obtain ⟨node, own, hnode, isNode, generated, vertices⟩ :=
      Scene.layerVertices_eq h distinct hl
    rw [List.getElem?_map, hnode, Option.map_some, isNode.name, isNode.children, isNode.toggleable,
      vertices] at hline
    exact ⟨own, generated, (Option.some.inj hline).symm⟩

end LayeredScene.Compilation
