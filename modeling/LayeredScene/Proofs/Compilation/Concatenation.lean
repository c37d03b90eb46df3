import LayeredScene.Proofs.Compilation.Objects
import LayeredScene.Proofs.Object.Readings
import LayeredScene.Proofs.Scene.Placing
import LayeredScene.Proofs.Source.Concatenation

/-! # Compiling source texts that follow each other

Two source texts whose blocks stay apart are compiled as if each were alone: the objects and the
outlines of both follow each other, and the report does too, with the lines of the second further
down.  Only the numbers of the objects go on, and so the scenes of the second have other identifiers
than they would have alone.

A number plays no part in whether a scene can be made (`exists_objectsFrom`), and so the two
together compile exactly if each of them does.
-/

namespace LayeredScene

open Text (lineFeeds)

/-! ## Readings -/

def DroppedLine.movedDown (count : Nat) (d : DroppedLine) : DroppedLine :=
  { d with line := d.line.movedDown count }

namespace Reading

/-- The reading of the same lines further down. -/
def movedDown (count : Nat) (r : Reading) : Reading :=
  { r with dropped := r.dropped.map (DroppedLine.movedDown count) }

def ofBlocks (blocks : List Block) : List Reading :=
  blocks.filterMap fun b => ofLines? b.lines

theorem ofBlocks_mapLines {f : NumberedLine → NumberedLine} (same : ∀ l, (f l).text = l.text)
    (blocks : List Block) :
    ofBlocks (blocks.map (Block.mapLines f)) = (ofBlocks blocks).map (mapLines f) := by
  have mapped (b : Block) : ofLines? (b.mapLines f).lines = (ofLines? b.lines).map (mapLines f) :=
    ofLines?_map same b.lines
  exact filterMap_map_comm (q := fun b : Block => ofLines? b.lines) mapped blocks

theorem ofBlocks_append_movedDown (count : Nat) (blocks blocks' : List Block) :
    ofBlocks (blocks ++ blocks'.map (Block.mapLines (NumberedLine.movedDown count))) =
      ofBlocks blocks ++ (ofBlocks blocks').map (movedDown count) := by
  have moved := ofBlocks_mapLines (f := NumberedLine.movedDown count) (fun _ => rfl) blocks'
  rw [ofBlocks, List.filterMap_append, ← ofBlocks, ← ofBlocks, moved]
  rfl

end Reading

namespace Compilation

variable {settings : Settings} {k : Nat} {os : List Object} {xs : List BuiltObject}

/-! ## Objects with their numbers -/

/-- What is built of objects, of which the first has a given number. -/
def objectsFrom (settings : Settings) (k : Nat) (os : List Object) :
    Except RangeOverflow (List BuiltObject) :=
  (os.zipIdx k).mapM fun o => buildObject settings o.1 o.2

theorem objectsFrom_append (settings : Settings) (k : Nat) (os os' : List Object) :
    objectsFrom settings k (os ++ os') = do
      let xs ← objectsFrom settings k os
      let ys ← objectsFrom settings (k + os.length) os'
      return xs ++ ys := by
  rw [objectsFrom, List.zipIdx_append, List.mapM_append]
  rfl

theorem objectsFrom_cons_ok {o : Object} (h : objectsFrom settings k (o :: os) = .ok xs) :
    ∃ x rest, buildObject settings o k = .ok x ∧ objectsFrom settings (k + 1) os = .ok rest ∧
      xs = x :: rest := by
  rw [objectsFrom, List.zipIdx_cons] at h
  exact mapM_cons_ok h

/-- Built objects are those given, with their outlines, and have scenes with their numbers. -/
structure BuiltFrom (settings : Settings) (k : Nat) (os : List Object) (xs : List BuiltObject) :
    Prop where
  objects : xs.map (·.object) = os
  outlines : xs.map (·.outline) = os.map Object.outline
  scenes : ∀ i x, xs[i]? = some x → Scene.ofObject x.object (k + i) settings = .ok x.scene

theorem builtFrom_of_ok (h : objectsFrom settings k os = .ok xs) :
    BuiltFrom settings k os xs := by
  induction os generalizing k xs with
  | nil =>
    obtain rfl := Except.ok.inj h
    exact ⟨rfl, rfl, fun _ _ none => by cases none⟩
  | cons o os ih =>
    obtain ⟨x, rest, built, others, rfl⟩ := objectsFrom_cons_ok h
    obtain ⟨object, outline, scene⟩ := buildObject_eq_ok built
    have later := ih others
    refine ⟨by simp [object, later.objects], by simp [outline, later.outlines], ?_⟩
    intro i y hy
    cases i with
    | zero =>
      obtain rfl := Option.some.inj hy
      rw [object]
      exact scene
    | succ i =>
      have found := later.scenes i y hy
      rwa [Nat.add_right_comm] at found

/-- Objects that can be built with some numbers can be built with others. -/
theorem exists_objectsFrom (h : objectsFrom settings k os = .ok xs) (k' : Nat) :
    ∃ ys, objectsFrom settings k' os = .ok ys := by
  induction os generalizing k k' xs with
  | nil => exact ⟨[], rfl⟩
  | cons o os ih =>
    obtain ⟨x, rest, built, others, -⟩ := objectsFrom_cons_ok h
    obtain ⟨-, -, scene⟩ := buildObject_eq_ok built
    obtain ⟨ys, hys⟩ := ih others (k' + 1)
    -- The meshes do not depend on the number.
    rw [Scene.ofObject_eq_map] at scene
    obtain ⟨meshes, generated, -⟩ := map_eq_ok scene
    have renumbered : Scene.ofObject o k' settings = .ok (Scene.ofMeshes o k' meshes) := by
      rw [Scene.ofObject_eq_map, generated]
      rfl
    refine ⟨⟨o, Scene.ofMeshes o k' meshes, o.outline⟩ :: ys, ?_⟩
    rw [objectsFrom] at hys ⊢
    rw [List.zipIdx_cons, List.mapM_cons, hys, buildObject, renumbered]
    rfl

/-! ## Two source texts -/

theorem ofReadings_eq_objectsFrom (settings : Settings) (readings : List Reading) :
    ofReadings settings readings = (⟨·, readings.flatMap (·.dropped)⟩) <$>
      objectsFrom settings 0 (readings.map (·.object)) := by
  rw [ofReadings_eq_map, objectsFrom, List.zipIdx_map, List.mapM_map]
  rfl

theorem ofSource_eq_objectsFrom (settings : Settings) (source : String) :
    ofSource settings source =
      (⟨·, (Reading.ofBlocks (Block.ofSource source)).flatMap (·.dropped)⟩) <$>
        objectsFrom settings 0 ((Reading.ofBlocks (Block.ofSource source)).map (·.object)) :=
  ofReadings_eq_objectsFrom settings _

theorem ofReadings_append_movedDown (settings : Settings) (count : Nat) (rs rs' : List Reading) :
    ofReadings settings (rs ++ rs'.map (Reading.movedDown count)) = do
      let xs ← objectsFrom settings 0 (rs.map (·.object))
      let ys ← objectsFrom settings rs.length (rs'.map (·.object))
      return ⟨xs ++ ys, rs.flatMap (·.dropped) ++
        (rs'.flatMap (·.dropped)).map (DroppedLine.movedDown count)⟩ := by
  have objects : (rs'.map (Reading.movedDown count)).map (·.object) = rs'.map (·.object) :=
    List.map_map ..
  have dropped : (rs'.map (Reading.movedDown count)).flatMap (·.dropped) =
      (rs'.flatMap (·.dropped)).map (DroppedLine.movedDown count) := by
    rw [List.flatMap_map, List.map_flatMap]
    rfl
  rw [ofReadings_eq_objectsFrom, List.map_append, objects, objectsFrom_append,
    List.flatMap_append, dropped, List.length_map, Nat.zero_add, map_bind]
  simp only [map_bind, map_pure]

/-- A compilation joins two others: their objects follow each other, with those of the second
    numbered on, and so do their reports, with the lines of the second further down. -/
structure Joined (settings : Settings) (count : Nat) (c d e : Compilation) : Prop where
  objects : e.objects.map (·.object) = c.objects.map (·.object) ++ d.objects.map (·.object)
  outlines : e.objects.map (·.outline) = c.objects.map (·.outline) ++ d.objects.map (·.outline)
  firstScenes : ∀ (i : Nat) (x : BuiltObject), c.objects[i]? = some x →
    ∃ y, e.objects[i]? = some y ∧ y.scene = x.scene
  secondScenes : ∀ (i : Nat) (x : BuiltObject), d.objects[i]? = some x →
    ∃ y, e.objects[c.objects.length + i]? = some y ∧
      Scene.ofObject x.object (c.objects.length + i) settings = .ok y.scene
  dropped : e.dropped = c.dropped ++ d.dropped.map (DroppedLine.movedDown count)

theorem joined_of_builtFrom {count : Nat} {os' : List Object} {ys zs : List BuiltObject}
    {dropped dropped' : List DroppedLine} (first : BuiltFrom settings 0 os xs)
    (second : BuiltFrom settings 0 os' ys) (renumbered : BuiltFrom settings os.length os' zs) :
    Joined settings count ⟨xs, dropped⟩ ⟨ys, dropped'⟩
      ⟨xs ++ zs, dropped ++ dropped'.map (DroppedLine.movedDown count)⟩ where
  objects := by simp [second.objects, renumbered.objects]
  outlines := by simp [second.outlines, renumbered.outlines]
  firstScenes i x hx := by
    have inside := lt_length_of_getElem? hx
    exact ⟨x, by rw [List.getElem?_append_left inside, hx], rfl⟩
  secondScenes i x hx := by
    have length : xs.length = os.length := by rw [← first.objects, List.length_map]
    -- The second objects and the renumbered ones are the same objects, and so as many.
    have same : zs.map (·.object) = ys.map (·.object) :=
      renumbered.objects.trans second.objects.symm
    have place := congrArg (·[i]?) same
    simp only [List.getElem?_map, hx, Option.map_some, Option.map_eq_some_iff] at place
    obtain ⟨z, hz, object⟩ := place
    refine ⟨z, ?_, ?_⟩
    · rw [List.getElem?_append_right (Nat.le_add_right _ _), Nat.add_sub_cancel_left, hz]
    · rw [length, ← object]
      exact renumbered.scenes i z hz
  dropped := rfl

end Compilation

/-- The blocks of two source texts stay apart if the last one of the first has a type and the second
    starts with a line of another type. -/
theorem Block.ofSource_append {a b : String} {last : Block} {first : NumberedLine}
    {objectType : String} (hlast : (ofSource a).getLast? = some last)
    (known : last.objectType ≠ "") (hfirst : (NumberedLine.ofSource b).head? = some first)
    (leads : first.leadingType? = some objectType) (other : objectType ≠ last.objectType) :
    ofSource (a ++ "\n" ++ b) = ofSource a ++
      (ofSource b).map (mapLines (NumberedLine.movedDown (lineFeeds a + 1))) := by
  have refused : last.take? (first.movedDown (lineFeeds a + 1)) = none := by
    have leads : (first.movedDown (lineFeeds a + 1)).leadingType? = some objectType := leads
    simp [take?, leads, known, other.symm]
  have head : ((NumberedLine.ofSource b).map (NumberedLine.movedDown (lineFeeds a + 1))).head? =
      some (first.movedDown (lineFeeds a + 1)) := by
    rw [List.head?_map, hfirst]
    rfl
  have leadAlike (l : NumberedLine) :
      (l.movedDown (lineFeeds a + 1)).leadingType? = l.leadingType? := rfl
  rw [ofSource, NumberedLine.ofSource_append, split_append hlast head refused,
    split_map leadAlike, ofSource, ofSource]

namespace Compilation

/-- Compiling two source texts, one behind the other, joins their compilations, and fails if one of
    them has none.  The last object of the first has to have a type, and the second has to start
    with a line that leads with another type. -/
theorem ofSource_concatenation (settings : Settings) {a b : String} {last : Block}
    {first : NumberedLine} {objectType : String}
    (hlast : (Block.ofSource a).getLast? = some last) (known : last.objectType ≠ "")
    (hfirst : (NumberedLine.ofSource b).head? = some first)
    (leads : first.leadingType? = some objectType) (other : objectType ≠ last.objectType) :
    (∃ c d e, ofSource settings a = .ok c ∧ ofSource settings b = .ok d ∧
      ofSource settings (a ++ "\n" ++ b) = .ok e ∧ Joined settings (lineFeeds a + 1) c d e) ∨
    (((∃ e, ofSource settings a = .error e) ∨ ∃ e, ofSource settings b = .error e) ∧
      ∃ e, ofSource settings (a ++ "\n" ++ b) = .error e) := by
  have blocks := Block.ofSource_append hlast known hfirst leads other
  have whole : ofSource settings (a ++ "\n" ++ b) = ofReadings settings
      (Reading.ofBlocks (Block.ofSource a) ++
        (Reading.ofBlocks (Block.ofSource b)).map (Reading.movedDown (lineFeeds a + 1))) := by
    rw [← Reading.ofBlocks_append_movedDown, ← blocks]
    rfl
  rw [whole, ofReadings_append_movedDown, ofSource_eq_objectsFrom, ofSource_eq_objectsFrom]
  generalize Reading.ofBlocks (Block.ofSource a) = rs
  generalize Reading.ofBlocks (Block.ofSource b) = rs'
  cases hx : objectsFrom settings 0 (rs.map (·.object)) with
  | error e => exact Or.inr ⟨Or.inl ⟨e, rfl⟩, e, rfl⟩
  | ok xs =>
    cases hy : objectsFrom settings 0 (rs'.map (·.object)) with
    | error e =>
      -- What fails under the first numbers fails under the others too.
      cases hz : objectsFrom settings rs.length (rs'.map (·.object)) with
      | error e' => exact Or.inr ⟨Or.inr ⟨e, rfl⟩, e', rfl⟩
      | ok zs =>
        obtain ⟨ys, built⟩ := exists_objectsFrom hz 0
        rw [hy] at built
        cases built
    | ok ys =>
      obtain ⟨zs, hz⟩ := exists_objectsFrom hy rs.length
      have renumbered := builtFrom_of_ok hz
      rw [← rs.length_map] at renumbered
      refine Or.inl ⟨_, _, _, rfl, rfl, ?_,
        joined_of_builtFrom (builtFrom_of_ok hx) (builtFrom_of_ok hy) renumbered⟩
      rw [hz]
      rfl

/-- Two texts that both hold a box and each end with a line that is dropped. -/
theorem ofSource_concatenation_boxes :
    ∃ c d e, ofSource {} "BOX > side > cube\nLAMP > base > cone\nLAMP" = .ok c ∧
      ofSource {} "# lid\nBOX > lid > cube\nBOX" = .ok d ∧
      ofSource {} ("BOX > side > cube\nLAMP > base > cone\nLAMP" ++ "\n" ++
        "# lid\nBOX > lid > cube\nBOX") = .ok e ∧
      Joined {} 3 c d e ∧ e.dropped.map (·.line.number) = [3, 6] := by
  have hlast : (Block.ofSource "BOX > side > cube\nLAMP > base > cone\nLAMP").getLast? =
      some ⟨"LAMP", [⟨2, "LAMP > base > cone"⟩, ⟨3, "LAMP"⟩]⟩ := by decide +kernel
  have hfirst : (NumberedLine.ofSource "# lid\nBOX > lid > cube\nBOX").head? =
      some ⟨2, "BOX > lid > cube"⟩ := by decide +kernel
  have leads : (⟨2, "BOX > lid > cube"⟩ : NumberedLine).leadingType? = some "BOX" := by
    decide +kernel
  obtain ⟨e, he, dropped⟩ := exists_eq_ok_of
    (x := ofSource {} ("BOX > side > cube\nLAMP > base > cone\nLAMP" ++ "\n" ++
      "# lid\nBOX > lid > cube\nBOX"))
    (p := fun e => e.dropped.map (·.line.number) = [3, 6]) (by decide +kernel)
  rcases ofSource_concatenation {} hlast (by decide) hfirst leads (by decide) with
    ⟨c, d, e', hc, hd, he', joined⟩ | ⟨-, _, failed⟩
  · rw [he, Except.ok.injEq] at he'
    subst he'
    exact ⟨c, d, e, hc, hd, he, joined, of_decide_eq_true dropped⟩
  · rw [he] at failed
    cases failed

end Compilation

end LayeredScene
