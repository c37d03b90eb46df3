import LayeredScene.Proofs.Statement.LetterCase
import LayeredScene.Proofs.Scene.Placing
import LayeredScene.Object.Outline

/-! # Objects that differ only in letter case

Objects are put together in the same way if the statements differ only in the letter case of what
they keep of the source.  Nothing of that is shown: the meshes, the scene and the outline of an
object do not depend on it.
-/

namespace LayeredScene

/-! ## Objects -/

namespace Layer

def foldCase (l : Layer) : Layer :=
  { l with statements := l.statements.map Statement.foldCase }

theorem add_foldCase (s : Statement) (layers : List Layer) :
    add s.foldCase (layers.map foldCase) = (add s layers).map foldCase := by
  induction layers with
  | nil => rfl
  | cons l layers ih =>
    have name : l.foldCase.name = s.foldCase.layer ↔ l.name = s.layer := .rfl
    simp only [List.map_cons, add, name, apply_ite (List.map foldCase), ih]
    simp [foldCase]

end Layer

namespace Object

/-- The object with the letters of the arguments that its statements keep in lower case. -/
def foldCase (o : Object) : Object :=
  { o with layers := o.layers.map Layer.foldCase }

/-- The objects are the same except for the letter case of the texts among the details of their
    statements. -/
structure SameButCase (o p : Object) : Prop where
  others : { o with layers := [] } = { p with layers := [] }
  layers : List.Forall₂ (fun l m => l.name = m.name ∧
    List.Forall₂ Statement.SameButCase l.statements m.statements) o.layers p.layers

theorem sameButCase_of_foldCase_eq {o p : Object} (same : o.foldCase = p.foldCase) :
    SameButCase o p := by
  have others : { o.foldCase with layers := [] } = { p.foldCase with layers := [] } := by rw [same]
  have layers := congrArg (·.layers) same
  refine ⟨others, (map_eq_map_iff_forall₂.mp layers).imp fun l m same => ?_⟩
  obtain ⟨name, statements⟩ := Layer.mk.inj same
  exact ⟨name, (map_eq_map_iff_forall₂.mp statements).imp fun _ _ =>
    Statement.sameButCase_of_foldCase_eq⟩

theorem push_foldCase (o : Object) (s : Statement) :
    o.foldCase.push s.foldCase = (o.push s).foldCase := by
  simp [push, foldCase, Layer.add_foldCase]

theorem foldl_push_foldCase (statements : List Statement) (o : Object) :
    (statements.map Statement.foldCase).foldl push o.foldCase =
      (statements.foldl push o).foldCase := by
  rw [List.foldl_map]
  exact List.foldl_hom foldCase push_foldCase

theorem foldCase_empty (objectType : String) (isComposite : Bool) :
    (empty objectType isComposite).foldCase = empty objectType isComposite := rfl

theorem ofStatements_foldCase (objectType : String) (statements : List Statement) :
    ofStatements objectType (statements.map Statement.foldCase) =
      (ofStatements objectType statements).foldCase := by
  have layers : (statements.map Statement.foldCase).map (·.layer) = statements.map (·.layer) := by
    simp [Statement.foldCase]
  rw [ofStatements, layers, ← foldCase_empty, foldl_push_foldCase, ofStatements]

theorem statements_foldCase (o : Object) :
    o.foldCase.statements = o.statements.map Statement.foldCase := by
  simp [statements, foldCase, Layer.foldCase, List.flatMap_map, List.map_flatMap]

theorem outline_foldCase (o : Object) : o.foldCase.outline = o.outline := by
  have body (s : Statement) : outlineBody s.foldCase = outlineBody s := rfl
  have layer (l : Layer) : outlineLayer l.foldCase = outlineLayer l := by
    simp [outlineLayer, Layer.foldCase, body, Function.comp_def]
  simp [outline, foldCase, layer, Function.comp_def]

end Object

/-! ## Meshes -/

theorem Statement.diameter_foldCase (s : Statement) : s.foldCase.diameter = s.diameter := by
  simp only [diameter, foldCase, SortedMap.get?_map]
  cases s.details.get? "diameter" with
  | none => rfl
  | some value => cases value <;> rfl

theorem Mesh.ofStatement_foldCase (s : Statement) (settings : MeshSettings) :
    ofStatement s.foldCase settings = ofStatement s settings := by
  have spec : ShapeSpec.ofStatement s.foldCase settings = ShapeSpec.ofStatement s settings := by
    simp only [ShapeSpec.ofStatement, Statement.diameter_foldCase]
    rfl
  rw [ofStatement, spec]
  rfl

/-! ## Scenes -/

namespace Scene

theorem placeStatements_foldCase (o : Object) (block k : Nat) (statements : List Statement)
    (meshes : List Mesh) :
    placeStatements o.foldCase block k (statements.map Statement.foldCase) meshes =
      placeStatements o block k statements meshes := by
  fun_induction placeStatements o block k statements meshes with
  | case1 => rfl
  | case2 => rfl
  | case3 k s ss m meshes rest ih =>
    rw [List.map_cons, placeStatements, ih]
    rfl

theorem placeLayers_foldCase (o : Object) (block k : Nat) (layers : List Layer)
    (meshes : List Mesh) :
    placeLayers o.foldCase block k (layers.map Layer.foldCase) meshes =
      placeLayers o block k layers meshes := by
  induction layers generalizing k meshes with
  | nil => rfl
  | cons l layers ih =>
    simp only [List.map_cons, placeLayers, Layer.foldCase, placeStatements_foldCase, ih]
    rfl

theorem ofObject_foldCase (o : Object) (block : Nat) (settings : Settings) :
    ofObject o.foldCase block settings = ofObject o block settings := by
  have meshes : o.foldCase.statements.mapM (fun s => Mesh.ofStatement s settings.mesh) =
      o.statements.mapM fun s => Mesh.ofStatement s settings.mesh := by
    simp only [Object.statements_foldCase, List.mapM_map, Function.comp_def,
      Mesh.ofStatement_foldCase]
  have count : o.foldCase.statementCount = o.statementCount := by
    simp [Object.statementCount, Object.statements_foldCase]
  have placed (meshes : List Mesh) : placeLayers o.foldCase block 0 o.foldCase.layers meshes =
      placeLayers o block 0 o.layers meshes := placeLayers_foldCase o block 0 o.layers meshes
  simp only [ofObject, generateAll_eq, meshes, count, placed]
  rfl

end Scene

end LayeredScene
