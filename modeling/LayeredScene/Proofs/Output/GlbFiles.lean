import LayeredScene.Proofs.Compilation.Objects
import LayeredScene.Proofs.Output.Delivery

/-! # The GLB files of several objects do not overwrite each other

The paths of the files are known before any is written, and they are all different
(`Glb.PathsApart`).  So a delivery that works leaves every file as it was written, and it leaves
alone what stands anywhere else, be it where the output path leads.
-/

namespace LayeredScene

/-- The paths of the files of several objects are different from each other and from the output
    path, and they lead into its folder. -/
structure Glb.PathsApart (out : Path) (count : Nat) : Prop where
  distinct : ∀ i < count, ∀ j < count, i ≠ j →
    (filePath out i count).components ≠ (filePath out j count).components
  new : ∀ i < count, (filePath out i count).components ≠ out.components
  sameFolder : out.fileName?.isSome → ∀ i < count, (filePath out i count).parent? = out.parent?

theorem Glb.pathsApart (out : Path) {count : Nat} (several : 1 < count) : PathsApart out count where
  distinct _ _ _ _ other := components_filePath_ne several out other
  new i _ := components_filePath_ne_self several out i
  sameFolder named i _ := parent?_filePath several named i

namespace Compilation

variable {c : Compilation} {out : Path} {host : Host (StateM World)} {layout : Json.Layout}
  {w w' : World}

/-- A delivery as GLB that works has delivered the files of all objects. -/
theorem sent_of_deliver (writes : host.WritesFiles)
    (ran : (c.deliver host .glb (some out) layout).run w = (.ok (), w')) :
    Delivery.Sent w (c.glbPieces out) w' := by
  refine Delivery.sent_of_sendAll writes (fun d hd => ?_) ran
  obtain ⟨_, -, rfl⟩ := List.mem_map.mp hd
  exact Option.some_ne_none _

/-- No file of several objects goes where the output path leads. -/
theorem resolve_filePath_ne_of_sent (sent : Delivery.Sent w (c.glbPieces out) w')
    (several : 1 < c.objects.length) {place : Place} (leads : w.store.resolve out = some place)
    {k : Nat} (hk : k < c.objects.length) :
    w.store.resolve (Glb.filePath out k c.objects.length) ≠ some place := by
  intro same
  have piece : (c.glbPieces out)[k]? = some
      ⟨some (Glb.filePath out k c.objects.length), Glb.ofScene c.objects[k].scene⟩ := by
    rw [getElem?_glbPieces, List.getElem?_eq_getElem hk, Option.map_some]
  have free := sent.isFolder_eq_false (List.mem_of_getElem? piece) rfl same
  cases Glb.isFolder_or_resolve_filePath_ne several w.store leads k with
  | inl folder => exact absurd folder (by simp [free])
  | inr elsewhere => exact elsewhere same

/-- The files of several objects are for different paths, in the folder of the output path if that
    has a name.  When a delivery as GLB has worked, the file of every object is what was made of its
    scene.  Every other place has what it had, and so what the output path or a path to any other
    place reads is the same as before.  Of the host it is only asked that the files are there which
    it reports as written. -/
theorem glbFiles_of_deliver (host : Host (StateM World)) (writes : host.WritesFiles)
    (c : Compilation) (several : 2 ≤ c.objects.length) (out : Path) :
    Glb.PathsApart out c.objects.length ∧
    ∀ layout w w', (c.deliver host .glb (some out) layout).run w = (.ok (), w') →
      c.GlbFiles out c.objects.length w w' ∧
      (∀ p : Path, (∀ k < c.objects.length, ∀ place, w.store.resolve p = some place →
        w.store.resolve (Glb.filePath out k c.objects.length) ≠ some place) →
          w'.store.read p = w.store.read p) ∧
      (∀ place, w.store.resolve out = some place →
        w'.store.find? place = w.store.find? place) ∧
      w'.store.read out = w.store.read out := by
  refine ⟨Glb.pathsApart out several, fun layout w w' ran => ?_⟩
  have sent := sent_of_deliver writes ran
  have files : c.GlbFiles out c.objects.length w w' := by
    apply glbFiles_of_sent
    rwa [List.take_of_length_le (length_glbPieces c out).le]
  have elsewhere (p : Path) (apart : ∀ k < c.objects.length, ∀ place,
      w.store.resolve p = some place →
        w.store.resolve (Glb.filePath out k c.objects.length) ≠ some place) :
      w'.store.read p = w.store.read p :=
    Store.read_congr (congrFun sent.resolve_eq p) fun place leads =>
      files.others place fun k hk => apart k hk place leads
  refine ⟨files, elsewhere, fun place leads => ?_, ?_⟩
  · exact files.others place fun k hk => resolve_filePath_ne_of_sent sent several leads hk
  · exact elsewhere out fun k hk place leads => resolve_filePath_ne_of_sent sent several leads hk

/-- A file on a shelf beside the working folder, whose name ends like that of a file of an object. -/
def shelf : World where
  store := { entries := [(["shelf"], .folder), (["shelf", "out-1.glb"], .file [1, 2, 3])] }

/-- The output path leads to a file, which is still there when both objects have theirs. -/
theorem glbFiles_of_deliver_shelf :
    ∃ c w', ofSource {} "BOX > side > cube\nLID > top > cube" = .ok c ∧ c.objects.length = 2 ∧
      (c.deliver World.host .glb (some ⟨"/shelf/out-1.glb"⟩) .compact).run shelf = (.ok (), w') ∧
      Glb.PathsApart ⟨"/shelf/out-1.glb"⟩ 2 ∧ c.GlbFiles ⟨"/shelf/out-1.glb"⟩ 2 shelf w' ∧
      w'.store.read ⟨"/shelf/out-1.glb"⟩ = some [1, 2, 3] := by
  obtain ⟨c, compiled, evaluated⟩ := exists_eq_ok_of
    (x := ofSource {} "BOX > side > cube\nLID > top > cube")
    (p := fun c => c.objects.length = 2 ∧
      ((c.deliver World.host .glb (some ⟨"/shelf/out-1.glb"⟩) .compact).run shelf).1.isOk)
    (by decide +kernel)
  obtain ⟨two, works⟩ := of_decide_eq_true evaluated
  cases ran : (c.deliver World.host .glb (some ⟨"/shelf/out-1.glb"⟩) .compact).run shelf with
  | mk outcome w' =>
    rw [ran] at works
    cases outcome with
    | error e => cases works
    | ok =>
      obtain ⟨apart, delivered⟩ := glbFiles_of_deliver World.host
        World.writesWholeFiles_host.writesFiles c two.ge ⟨"/shelf/out-1.glb"⟩
      obtain ⟨files, -, -, kept⟩ := delivered .compact shelf w' ran
      rw [two] at apart files
      exact ⟨c, w', compiled, two, ran, apart, files, kept.trans (by decide +kernel)⟩

end Compilation

end LayeredScene
