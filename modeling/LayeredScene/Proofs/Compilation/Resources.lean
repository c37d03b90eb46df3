import LayeredScene.Proofs.Compilation.Summary
import LayeredScene.Proofs.Scene.Export

/-! # The resources of a compilation do not clash

The number of the object makes the names of two objects different even if their types are the same;
inside an object the kind and the ordinal do.  So only the hash could make two identifiers equal,
and as long as it does not, every lookup in every scene finds what belongs together, and so do those
behind the glTF documents and the summary.
-/

namespace LayeredScene.Compilation

variable {settings : Settings} {source : String} {c : Compilation}

/-- The names of all resources, object by object. -/
def resourceNames (c : Compilation) : List ResourceName :=
  c.objects.zipIdx.flatMap fun (o, k) => ResourceName.ofObject o.object k

/-! ## The names -/

theorem mem_resourceNames {n : ResourceName} :
    n ∈ c.resourceNames ↔
      ∃ o k, c.objects[k]? = some o ∧ n ∈ ResourceName.ofObject o.object k := by
  simp [resourceNames, List.mem_zipIdx_iff_getElem?]

theorem nodup_resourceNames (c : Compilation) : c.resourceNames.Nodup := by
  refine List.nodup_flatMap.mpr ⟨fun (o, k) _ => ResourceName.nodup_ofObject o.object k, ?_⟩
  have numbers : (c.objects.zipIdx.map Prod.snd).Nodup := by
    rw [List.zipIdx_map_snd]
    exact List.nodup_range'
  -- Names of two objects differ in the number of the object.
  refine (List.pairwise_map.mp numbers).imp fun {a b} different n inA inB => different ?_
  rw [← (ResourceName.of_mem_ofObject inA).1, (ResourceName.of_mem_ofObject inB).1]

theorem nodup_text_resourceNames (c : Compilation) : (c.resourceNames.map (·.text)).Nodup := by
  refine (nodup_resourceNames c).map_on fun a ha b hb same => ?_
  obtain ⟨_, _, -, inA⟩ := mem_resourceNames.mp ha
  obtain ⟨_, _, -, inB⟩ := mem_resourceNames.mp hb
  exact ResourceName.text_injective (ResourceName.of_mem_ofObject inA).2
    (ResourceName.of_mem_ofObject inB).2 same

/-! ## The scenes -/

theorem uuids_eq (h : ofSource settings source = .ok c) :
    c.objects.flatMap (·.scene.uuids) = c.resourceNames.map ResourceName.uuid := by
  have objects : c.objects = c.objects.zipIdx.map Prod.fst := (List.zipIdx_map_fst 0 _).symm
  rw [resourceNames, List.map_flatMap, objects, List.flatMap_map, ← objects]
  refine List.flatMap_congr fun (o, k) listed => ?_
  exact Scene.uuids_eq (scene_eq h (List.mem_zipIdx_iff_getElem?.mp listed))

/-- If the hash tells the names apart, all identifiers of a scene are distinct. -/
theorem nodup_uuids (h : ofSource settings source = .ok c)
    (injective : ∀ a ∈ c.resourceNames, ∀ b ∈ c.resourceNames, a.uuid = b.uuid → a.text = b.text)
    {o : BuiltObject} (ho : o ∈ c.objects) : o.scene.uuids.Nodup := by
  obtain ⟨k, hk⟩ := List.getElem?_of_mem ho
  have listed {n : ResourceName} (hn : n ∈ ResourceName.ofObject o.object k) :
      n ∈ c.resourceNames := mem_resourceNames.mpr ⟨o, k, hk, hn⟩
  exact Scene.nodup_uuids (scene_eq h hk) fun a ha b hb => injective a (listed ha) b (listed hb)

/-- The resources of a compilation have distinct names, from which the identifiers in its scenes are
    derived.  If these are distinct as well, a body of a scene leads to its own geometry and
    material however they are looked up, and the glTF document of the scene draws it with them.  The
    lines of the summary are those of the objects and their layers, each with the sum of the
    vertices that are generated for its statements, and those about what was dropped. -/
theorem resources_distinct (settings : Settings) (source : String) (c : Compilation)
    (h : ofSource settings source = .ok c) :
    c.objects.flatMap (·.scene.uuids) = c.resourceNames.map (fun n => uuidOf n.text) ∧
    (c.resourceNames.map (·.text)).Nodup ∧
    ((∀ a ∈ c.resourceNames, ∀ b ∈ c.resourceNames,
        uuidOf a.text = uuidOf b.text → a.text = b.text) →
      (∀ o ∈ c.objects, ∀ k node, o.scene.meshes[k]? = some node →
        ∃ g m, Scene.Resolves o.scene k node g m ∧
          Gltf.Draws (.ofScene o.scene (Glb.exportedOf o.scene))
            ((Glb.exportedOf o.scene).flatMap (·.bytes)) k node g m) ∧
      ∃ parts, List.Forall₂ (fun o lines => SummarizedBy settings o.object lines) c.objects parts ∧
        Text.lines c.summaryText = parts.flatten ++ c.droppedLines) := by
  refine ⟨uuids_eq h, nodup_text_resourceNames c, fun injective => ⟨?_, ?_⟩⟩
  · intro o ho k node hnode
    have distinct := nodup_uuids h injective ho
    obtain ⟨i, scene⟩ := exists_scene_eq h ho
    obtain ⟨g, m, resolves⟩ := Scene.exists_resolves scene distinct hnode
    exact ⟨g, m, resolves, Scene.draws_of_resolves scene distinct hnode resolves⟩
  · refine ⟨c.objects.map linesOf, ?_, ?_⟩
    · rw [List.forall₂_map_right_iff, List.forall₂_same]
      intro o ho
      obtain ⟨i, scene⟩ := exists_scene_eq h ho
      exact summarizedBy scene (nodup_uuids h injective ho)
    · rw [lines_summaryText h, List.flatMap_def]

/-- Two objects of one type, which itself reads like the name of a resource, with another object
    between them. -/
theorem resources_distinct_repeated_type :
    ∃ c, ofSource {} "0/geometry > a > cube\nBOX > b > cube\n0/geometry > a > cube" = .ok c ∧
      (c.resourceNames.map (·.text)).Nodup ∧ c.resourceNames.length = 6 ∧
      (∀ o ∈ c.objects, ∀ k node, o.scene.meshes[k]? = some node →
        ∃ g m, Scene.Resolves o.scene k node g m) ∧
      ∃ parts, List.Forall₂ (fun o lines => SummarizedBy {} o.object lines) c.objects parts ∧
        Text.lines c.summaryText = parts.flatten := by
  obtain ⟨c, h, evaluated⟩ := exists_eq_ok_of
    (x := ofSource {} "0/geometry > a > cube\nBOX > b > cube\n0/geometry > a > cube")
    (p := fun c => (c.resourceNames.map fun n => uuidOf n.text).Nodup ∧
      c.resourceNames.length = 6 ∧ c.droppedLines = [])
    (by decide +kernel)
  obtain ⟨distinct, six, nothing⟩ := of_decide_eq_true evaluated
  obtain ⟨-, names, found⟩ := resources_distinct {} _ c h
  obtain ⟨bodies, parts, summarized, lines⟩ := found fun a ha b hb same => by
    rw [List.inj_on_of_nodup_map distinct ha hb same]
  rw [nothing, List.append_nil] at lines
  refine ⟨c, h, names, six, fun o ho k node hnode => ?_, parts, summarized, lines⟩
  obtain ⟨g, m, resolves, -⟩ := bodies o ho k node hnode
  exact ⟨g, m, resolves⟩

end LayeredScene.Compilation
