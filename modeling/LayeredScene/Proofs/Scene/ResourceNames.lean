import LayeredScene.Scene.ResourceName
import LayeredScene.Proofs.Scene.Mirror
import LayeredScene.Proofs.Text.Separators

/-! # Names of resources are unambiguous

The parts of a name are put between slashes as they are, and the object type in the middle may be
any text, with slashes and digits of its own.  `text_injective` reads a name from both ends: the
number of the object ends with the first slash behind `gene/`, the ordinal and the kind begin with
the last two, and what is left is the type.
-/

namespace LayeredScene

/-! ## Reading a name -/

namespace ResourceName

theorem toList_text (n : ResourceName) :
    n.text.toList = "gene/".toList ++ ((toString n.block).toList ++ '/' ::
      (n.objectType.toList ++ '/' :: n.kind.toList ++ '/' :: (toString n.ordinal).toList)) := by
  simp [text]

/-- Different resources have different names, whatever their objects are called. -/
theorem text_injective {a b : ResourceName} (ha : '/' ∉ a.kind.toList) (hb : '/' ∉ b.kind.toList)
    (h : a.text = b.text) : a = b := by
  have chars := congrArg String.toList h
  rw [toList_text, toList_text] at chars
  have number (n : Nat) : '/' ∉ (toString n).toList := notMem_toString_of_isDigit (by decide) n
  -- From the front: the number of the object ends with the first slash.
  obtain ⟨block, rest⟩ := append_cons_inj (number _) (number _) (List.append_cancel_left chars)
  -- From the back: the ordinal begins with the last slash, and the kind with the one before.
  obtain ⟨front, ordinal⟩ := append_cons_inj_last (number _) (number _) rest
  obtain ⟨objectType, kind⟩ := append_cons_inj_last ha hb front
  cases a
  cases b
  rw [ResourceName.mk.injEq]
  exact ⟨String.toList_inj.mp objectType, Nat.repr_inj.mp (String.toList_inj.mp block),
    String.toList_inj.mp kind, Nat.repr_inj.mp (String.toList_inj.mp ordinal)⟩

/-! ## The resources of an object -/

def ofKind (o : Object) (block : Nat) (kind : String) : List ResourceName :=
  (List.range o.statementCount).map fun ordinal => ⟨o.objectType, block, kind, ordinal⟩

/-- The names of the geometries and the materials of an object. -/
def ofObject (o : Object) (block : Nat) : List ResourceName :=
  ofKind o block "geometry" ++ ofKind o block "material"

theorem of_mem_ofObject {o : Object} {block : Nat} {n : ResourceName} (h : n ∈ ofObject o block) :
    n.block = block ∧ '/' ∉ n.kind.toList := by
  have slashFree : '/' ∉ "geometry".toList ∧ '/' ∉ "material".toList := by decide
  simp only [ofObject, ofKind, List.mem_append, List.mem_map] at h
  rcases h with ⟨_, -, rfl⟩ | ⟨_, -, rfl⟩
  · exact ⟨rfl, slashFree.1⟩
  · exact ⟨rfl, slashFree.2⟩

theorem nodup_ofObject (o : Object) (block : Nat) : (ofObject o block).Nodup := by
  have ofKind (kind : String) : (ofKind o block kind).Nodup :=
    List.Nodup.map (fun _ _ same => congrArg ordinal same) List.nodup_range
  refine List.nodup_append.mpr ⟨ofKind _, ofKind _, ?_⟩
  intro a ha b hb same
  simp only [ResourceName.ofKind, List.mem_map] at ha hb
  obtain ⟨_, -, rfl⟩ := ha
  obtain ⟨_, -, rfl⟩ := hb
  exact absurd (congrArg kind same) (show "geometry" ≠ "material" by decide)

end ResourceName

namespace Scene

/-- The identifiers of the resources of a scene. -/
def uuids (s : Scene) : List String :=
  s.geometries.map (·.uuid) ++ s.materials.map (·.uuid)

theorem uuids_eq {o : Object} {block : Nat} {settings : Settings} {scene : Scene}
    (h : ofObject o block settings = .ok scene) :
    scene.uuids = (ResourceName.ofObject o block).map ResourceName.uuid := by
  obtain ⟨meshes, generated, rfl⟩ := ofObject_eq_ok h
  have length : meshes.length = o.statementCount := length_of_mapM_ok generated
  have geometries : (geometriesFrom o block 0 meshes).map (·.uuid) =
      (ResourceName.ofKind o block "geometry").map ResourceName.uuid := by
    rw [geometriesFrom, ResourceName.ofKind, List.map_map, List.map_map, ← length]
    exact map_zipIdx_snd (geometryId o block) meshes
  have materials : (materialsFrom o block 0 o.statements).map (·.uuid) =
      (ResourceName.ofKind o block "material").map ResourceName.uuid := by
    rw [materialsFrom, ResourceName.ofKind, List.map_map, List.map_map]
    exact map_zipIdx_snd (materialId o block) o.statements
  rw [ResourceName.ofObject, List.map_append, ← geometries, ← materials]
  rfl

/-- If the hash tells the names of an object apart, the identifiers in its scene are distinct. -/
theorem nodup_uuids {o : Object} {block : Nat} {settings : Settings} {scene : Scene}
    (h : ofObject o block settings = .ok scene)
    (injective : ∀ a ∈ ResourceName.ofObject o block, ∀ b ∈ ResourceName.ofObject o block,
      a.uuid = b.uuid → a.text = b.text) : scene.uuids.Nodup := by
  rw [uuids_eq h]
  refine (ResourceName.nodup_ofObject o block).map_on fun a ha b hb same => ?_
  exact ResourceName.text_injective (ResourceName.of_mem_ofObject ha).2
    (ResourceName.of_mem_ofObject hb).2 (injective a ha b hb same)

end Scene

end LayeredScene
