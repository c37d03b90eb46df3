import LayeredScene.Proofs.Compilation.Concatenation
import LayeredScene.Proofs.Source.KeylessLines

/-! # Compiling a source text without its lines that have no separator

A line without a separator gives no statement.  It can give an object its type, but only one without
statements, since others have the type of their first statement.  So the blocks of a source with and
without these lines have the same objects, except that the objects without statements can have other
types (`SameOrEmpty`), and that a source without any separator has one such object or none.
-/

namespace LayeredScene

/-- The objects are the same, or neither of them has anything in it. -/
def Object.SameOrEmpty (o o' : Object) : Prop :=
  o = o' ∨ o.layers = [] ∧ o'.layers = []

def BuiltObject.holdsStatement (x : BuiltObject) : Bool :=
  0 < x.object.statementCount

/-! ## Readings -/

namespace NumberedLine

theorem statement?_of_keyless {l : NumberedLine} (h : l.isKeyed = false) : l.statement? = none := by
  have none : separators l.text = 0 := by
    rw [separators, List.count_eq_zero]
    simpa [isKeyed] using h
  rw [statement?, ofLine_of_lt_two (by omega)]
  rfl

theorem filterMap_statement?_filter_isKeyed (lines : List NumberedLine) :
    (lines.filter isKeyed).filterMap statement? = lines.filterMap statement? := by
  rw [List.filterMap_filter]
  refine List.filterMap_congr fun l _ => ?_
  cases keyed : l.isKeyed with
  | false => simp [statement?_of_keyless keyed]
  | true => simp

/-- The report on the lines with a separator is the part of the report that is about them. -/
theorem filter_filterMap_dropped? (lines : List NumberedLine) :
    (lines.filterMap dropped?).filter (·.line.isKeyed) =
      (lines.filter isKeyed).filterMap dropped? := by
  rw [List.filter_filterMap, List.filterMap_filter]
  refine List.filterMap_congr fun l _ => ?_
  rw [dropped?]
  cases Statement.ofLine l.text with
  | ok s => simp
  | error fault => simp [Option.filter_some]

end NumberedLine

namespace Reading

variable {lines : List NumberedLine} {r r' : Reading}

theorem layers_of_no_statement (read : ofLines? lines = some r)
    (none : lines.filterMap NumberedLine.statement? = []) : r.object.layers = [] := by
  cases lines with
  | nil => cases read
  | cons first rest =>
    obtain rfl := Option.some.inj read
    rw [none]
    rfl

/-- Lines with the same statements make the same object if there is a statement, and none of them
    has a layer otherwise. -/
theorem sameOrEmpty_of_statements {lines' : List NumberedLine} (read : ofLines? lines = some r)
    (read' : ofLines? lines' = some r')
    (same : lines.filterMap NumberedLine.statement? = lines'.filterMap NumberedLine.statement?) :
    r.object.SameOrEmpty r'.object := by
  cases made : lines.filterMap NumberedLine.statement? with
  | nil =>
    exact .inr ⟨layers_of_no_statement read made, layers_of_no_statement read' (same ▸ made)⟩
  | cons s statements =>
    left
    cases lines with
    | nil => cases read
    | cons first rest =>
      cases lines' with
      | nil => cases read'
      | cons first' rest' =>
        obtain rfl := Option.some.inj read
        obtain rfl := Option.some.inj read'
        rw [← same, made]
        rfl

theorem sameOrEmpty_keyedPart {b : Block} (nonempty : b.keyedPart.lines ≠ []) :
    Option.Rel (fun r r' : Reading => r.object.SameOrEmpty r'.object) (ofLines? b.lines)
      (ofLines? b.keyedPart.lines) := by
  have some : b.lines ≠ [] := by
    intro none
    exact nonempty (by rw [Block.keyedPart, none]; rfl)
  obtain ⟨r, -, read, -⟩ := ofLines?_of_ne_nil some
  obtain ⟨r', -, read', -⟩ := ofLines?_of_ne_nil nonempty
  rw [read, read']
  exact .some (sameOrEmpty_of_statements read read'
    (NumberedLine.filterMap_statement?_filter_isKeyed b.lines).symm)

end Reading

/-! ## Objects -/

namespace Compilation

variable {settings : Settings} {k : Nat} {o o' : Object} {os os' : List Object}

theorem buildObject_of_layers_eq_nil (settings : Settings) (k : Nat) (empty : o.layers = []) :
    ∃ x, buildObject settings o k = .ok x ∧ x.holdsStatement = false := by
  have none : o.statements = [] := by rw [Object.statements, empty]; rfl
  refine ⟨⟨o, Scene.ofMeshes o k [], o.outline⟩, ?_, ?_⟩
  · rw [buildObject, Scene.ofObject_eq_map, none]
    rfl
  · simp [BuiltObject.holdsStatement, Object.statementCount, none]

/-- The objects with statements that are built of objects, of which the first has a given number. -/
def heldFrom (settings : Settings) (k : Nat) (os : List Object) :
    Except RangeOverflow (List BuiltObject) :=
  List.filter BuiltObject.holdsStatement <$> objectsFrom settings k os

theorem heldFrom_cons (settings : Settings) (k : Nat) (o : Object) (os : List Object) :
    heldFrom settings k (o :: os) = do
      let x ← buildObject settings o k
      let xs ← heldFrom settings (k + 1) os
      return if x.holdsStatement then x :: xs else xs := by
  simp only [heldFrom, objectsFrom, List.zipIdx_cons, List.mapM_cons, map_bind, map_pure,
    bind_map_left, List.filter_cons]

theorem heldFrom_cons_empty (settings : Settings) (k : Nat) (empty : o.layers = [])
    (os : List Object) : heldFrom settings k (o :: os) = heldFrom settings (k + 1) os := by
  obtain ⟨x, built, holds⟩ := buildObject_of_layers_eq_nil settings k empty
  rw [heldFrom_cons, built]
  show (do
    let xs ← heldFrom settings (k + 1) os
    return if x.holdsStatement then x :: xs else xs) = heldFrom settings (k + 1) os
  simp only [holds, Bool.false_eq_true, if_false, bind_pure]

/-- Objects that are the same unless they are empty give the same objects with statements. -/
theorem heldFrom_congr (alike : List.Forall₂ Object.SameOrEmpty os os') (k : Nat) :
    heldFrom settings k os = heldFrom settings k os' := by
  induction alike generalizing k with
  | nil => rfl
  | cons here _ ih =>
    rcases here with rfl | ⟨empty, empty'⟩
    · rw [heldFrom_cons, heldFrom_cons, ih]
    · rw [heldFrom_cons_empty settings k empty, heldFrom_cons_empty settings k empty', ih]

/-! ## The whole source -/

/-- The blocks with and without their keyless lines have the same objects with statements. -/
theorem heldFrom_keyedPart (settings : Settings) (ls : List NumberedLine) :
    heldFrom settings 0 ((Reading.ofBlocks (Block.split ls)).map (·.object)) =
      heldFrom settings 0
        ((Reading.ofBlocks (Block.split (ls.filter NumberedLine.isKeyed))).map (·.object)) := by
  rcases Block.split_filter_isKeyed ls with same | ⟨single, none⟩
  · apply heldFrom_congr
    rw [← same, Reading.ofBlocks, Reading.ofBlocks, List.filterMap_map,
      List.forall₂_map_left_iff, List.forall₂_map_right_iff]
    refine forall₂_filterMap fun b hb => Reading.sameOrEmpty_keyedPart ?_
    exact Block.lines_ne_nil_of_mem_split (same ▸ List.mem_map_of_mem hb)
  · -- The one block has no statements, and so its object has none.
    obtain ⟨b, blocks, keyedPart⟩ := List.map_eq_singleton_iff.mp single
    have keyless : b.lines.filter NumberedLine.isKeyed = [] := congrArg Block.lines keyedPart
    have nonempty : b.lines ≠ [] :=
      Block.lines_ne_nil_of_mem_split (blocks ▸ List.mem_singleton_self b)
    obtain ⟨r, -, read, -⟩ := Reading.ofLines?_of_ne_nil nonempty
    have empty : r.object.layers = [] := by
      apply Reading.layers_of_no_statement read
      rw [← NumberedLine.filterMap_statement?_filter_isKeyed, keyless]
      rfl
    have one : Reading.ofBlocks [b] = [r] := by simp [Reading.ofBlocks, read]
    rw [blocks, none, one, List.map_singleton, heldFrom_cons_empty settings 0 empty]
    rfl

theorem heldFrom_withoutKeyless (settings : Settings) (source : String) :
    heldFrom settings 0 ((Reading.ofBlocks (Block.ofSource source)).map (·.object)) =
      heldFrom settings 0
        ((Reading.ofBlocks (Block.ofSource (withoutKeyless source))).map (·.object)) := by
  have text (l : NumberedLine) : l.unnumbered.text = l.text := rfl
  have leads (l : NumberedLine) : l.unnumbered.leadingType? = l.leadingType? := rfl
  have objects (ls : List NumberedLine) :
      (Reading.ofBlocks (Block.split (ls.map NumberedLine.unnumbered))).map (·.object) =
        (Reading.ofBlocks (Block.split ls)).map (·.object) := by
    rw [Block.split_map leads, Reading.ofBlocks_mapLines text, List.map_map]
    rfl
  rw [Block.ofSource, heldFrom_keyedPart, ← objects, ← NumberedLine.ofSource_withoutKeyless,
    objects, ← Block.ofSource]

/-- Lines without a separator are inert: a source text and the same text without them both compile
    or both fail; the objects with statements are then the same, with their scenes and outlines,
    and the report of the one is that of the other as far as it is about lines with a separator,
    under other numbers. -/
theorem keyless_lines_inert (settings : Settings) (source : String) :
    (∃ c d, ofSource settings source = .ok c ∧
      ofSource settings (withoutKeyless source) = .ok d ∧
      d.objects.filter BuiltObject.holdsStatement = c.objects.filter BuiltObject.holdsStatement ∧
      d.dropped.map (DroppedLine.mapLine NumberedLine.unnumbered) =
        (c.dropped.filter (·.line.isKeyed)).map (DroppedLine.mapLine NumberedLine.unnumbered)) ∨
    ∃ e, ofSource settings source = .error e ∧
      ofSource settings (withoutKeyless source) = .error e := by
  rcases ok_ok_or_error_error (heldFrom_withoutKeyless settings source) with
    ⟨xs, ys, built, built', held⟩ | ⟨e, failed, failed'⟩
  · have compiled := ofSource_eq_objectsFrom settings source
    have compiled' := ofSource_eq_objectsFrom settings (withoutKeyless source)
    rw [built] at compiled
    rw [built'] at compiled'
    refine .inl ⟨_, _, compiled, compiled', held.symm, ?_⟩
    rw [dropped_eq_filterMap compiled, dropped_eq_filterMap compiled']
    have unnumbered := filterMap_map_comm
      (NumberedLine.dropped?_map (f := NumberedLine.unnumbered) fun _ => rfl)
    rw [NumberedLine.filter_filterMap_dropped?, ← unnumbered, ← unnumbered,
      NumberedLine.ofSource_withoutKeyless]
  · right
    refine ⟨e, ?_, ?_⟩
    · rw [ofSource_eq_objectsFrom, failed]
      rfl
    · rw [ofSource_eq_objectsFrom, failed']
      rfl

end Compilation

end LayeredScene
