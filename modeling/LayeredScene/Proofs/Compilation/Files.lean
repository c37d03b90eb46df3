import LayeredScene.Proofs.Compilation.Objects
import LayeredScene.Proofs.Object.Layers
import LayeredScene.Proofs.Scene.Export

/-! # No statement is lost on the way to a file

The objects of a compilation have no layer without statements, every statement has a mesh with
something to draw, and the exporter finds it, so that a file shows all statements of its object.
-/

namespace LayeredScene.Compilation

open Glb (Complete Contents exportedOf unpack?)

variable {settings : Settings} {source : String} {c : Compilation} {k : Nat} {o : BuiltObject}

theorem statements_ne_nil_of_mem_layers (h : ofSource settings source = .ok c)
    (ho : c.objects[k]? = some o) {l : Layer} (hl : l ∈ o.object.layers) : l.statements ≠ [] := by
  obtain ⟨b, objectType, -, object, -⟩ := exists_block h ho
  rw [object] at hl
  exact (Object.groups_ofStatements objectType _).statements_ne_nil hl

/-- As long as the hash tells the resources of an object apart, its file has all of it.  There is no
    file for an object without statements.  For any other one whose file is not too long for its
    header, the JSON text has a node for every layer, with children, and one for every statement,
    which are as many as there are meshes, materials and pairs of accessors.  It does not matter how
    finely the meshes are divided. -/
theorem complete_ofScene (settings : Settings) (source : String) (c : Compilation)
    (h : ofSource settings source = .ok c) (k : Nat) (o : BuiltObject)
    (ho : c.objects[k]? = some o)
    (injective : ∀ a ∈ ResourceName.ofObject o.object k, ∀ b ∈ ResourceName.ofObject o.object k,
      uuidOf a.text = uuidOf b.text → a.text = b.text)
    (small : (Glb.ofScene o.scene).length < 2 ^ 32) :
    (o.object.statementCount = 0 → Glb.ofScene o.scene = []) ∧
    (o.object.statementCount ≠ 0 → Glb.ofScene o.scene ≠ [] ∧
      ∃ asset contents, unpack? (Glb.ofScene o.scene) = some asset ∧
        Contents.read? asset.document = some contents ∧ Complete o.object contents) := by
  obtain ⟨-, -, -, -, scene⟩ := exists_block h ho
  have distinct := Scene.nodup_uuids scene injective
  have grouped : ∀ l ∈ o.object.layers, l.statements ≠ [] := fun l hl =>
    statements_ne_nil_of_mem_layers h ho hl
  obtain ⟨meshes, generated, same⟩ := Scene.ofObject_eq_ok scene
  have enough : meshes.length = o.object.statementCount := length_of_mapM_ok generated
  rw [same] at distinct
  -- Everything is exported, so that there is a file exactly if there is a statement.
  have exported := Scene.exportedOf_ofMeshes k generated
  have count : (exportedOf o.scene).length = o.object.statementCount := by
    rw [same, exported, Scene.ofMeshes, Scene.geometriesFrom, List.length_map, List.length_zipIdx,
      enough]
  have empty : Glb.ofScene o.scene = [] ↔ o.object.statementCount = 0 := by
    rw [Glb.ofScene_eq_nil_iff, ← count, List.length_eq_zero_iff]
  refine ⟨empty.mpr, fun some => ?_⟩
  have nonempty : Glb.ofScene o.scene ≠ [] := mt empty.mp some
  refine ⟨nonempty, _, _, Glb.unpack?_ofScene nonempty small, Contents.read?_ofJson _, ?_⟩
  have complete := Scene.complete_ofMeshes distinct enough grouped
  rw [← exported, ← same] at complete
  exact complete

/-- A box with two layers, and so with five nodes. -/
theorem complete_ofScene_box :
    ∃ c o, ofSource {} "BOX > lid > pyramid\nBOX > side > cube" = .ok c ∧
      c.objects[0]? = some o ∧ o.object.statementCount = 2 ∧
      ∃ asset contents, unpack? (Glb.ofScene o.scene) = some asset ∧
        Contents.read? asset.document = some contents ∧ contents.nodes.length = 5 ∧
        Complete o.object contents := by
  obtain ⟨c, h, evaluated⟩ := exists_eq_ok_of
    (x := ofSource {} "BOX > lid > pyramid\nBOX > side > cube")
    (p := fun c => c.objects[0]?.any fun o =>
      o.object.layers.length = 2 ∧ o.object.statementCount = 2 ∧
      ((ResourceName.ofObject o.object 0).map fun n => uuidOf n.text).Nodup ∧
      31 + 4 * ((Gltf.ofScene o.scene (exportedOf o.scene)).unturned.toJson.size +
          4 * Numeral.charLimit * (Gltf.ofScene o.scene (exportedOf o.scene)).nodes.length) +
        ((exportedOf o.scene).flatMap (·.bytes)).length < 2 ^ 32)
    (by decide +kernel)
  obtain ⟨o, ho, evaluated⟩ := (Option.any_eq_true ..).mp evaluated
  obtain ⟨layers, statements, distinct, bound⟩ := of_decide_eq_true evaluated
  obtain ⟨-, file⟩ := complete_ofScene {} _ c h 0 o ho
    (fun a ha b hb same => by rw [List.inj_on_of_nodup_map distinct ha hb same])
    (Glb.length_ofScene_lt bound)
  obtain ⟨-, asset, contents, unpacked, read, complete⟩ := file (by rw [statements]; decide)
  refine ⟨c, o, h, ho, statements, asset, contents, unpacked, read, ?_, complete⟩
  rw [complete.nodeCount, layers, statements]

end LayeredScene.Compilation
