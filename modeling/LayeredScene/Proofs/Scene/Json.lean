import LayeredScene.Scene.Json
import LayeredScene.Proofs.Object.Json

/-! # Scenes are read back from their JSON text

The lemmas follow the codecs of `Scene.Json` type by type.  Only two things can keep a scene from
being read back: a count that does not fit a word of 64 bits, and a number that is not read as it
was printed.  A mesh node is not read by a record alone, since the members of its transform stand
among its own: they are set aside by `BodyNode.readMembers` and make the object that the transform
is read from.
-/

open LayeredScene.Codec (keeps_text keeps_bool keeps_count keeps_word32 keeps_single keeps_double
  keeps_triple)
open LayeredScene.Field (keeps_required keeps_defaulted keeps_optional)
open LayeredScene.Record (keeps_unit)

namespace LayeredScene

/-! ## The numbers of a scene -/

def Transform.doubles (t : Transform) : List Float :=
  t.position.toList ++ t.rotation.toList ++ t.scale.toList

def SceneMaterial.singles (m : SceneMaterial) : List Float32 :=
  [m.roughness, m.metalness, m.opacity]

namespace Scene

/-- All single-width numbers of a scene. -/
def singles (s : Scene) : List Float32 :=
  s.header.version :: (s.geometries.flatMap (·.positions.values) ++
    s.materials.flatMap (·.singles) ++ s.root.children.flatMap (·.info.opacity.toList))

/-- All double-width numbers of a scene. -/
def doubles (s : Scene) : List Float :=
  s.meshes.flatMap (·.transform.doubles)

end Scene

/-! ## Headers and resources -/

theorem SceneHeader.keeps {h : SceneHeader} (version : PrintsSingle h.version)
    (layers : h.layerCount < UInt64.size) (statements : h.statementCount < UInt64.size) :
    codec.Keeps 1 h :=
  Record.Keeps.codec (by decide) rfl
    (.cons (keeps_required _ (keeps_single version)) <|
     .cons (keeps_required _ (keeps_text h.kind)) <|
     .cons (keeps_required _ (keeps_text h.generator)) <|
     .cons (keeps_required _ (keeps_text h.objectType)) <|
     .cons (keeps_required _ (keeps_bool h.anatomical)) <|
     .cons (keeps_required _ (keeps_count layers)) <|
     .cons (keeps_required _ (keeps_count statements)) <|
     .cons (keeps_required _ (Precision.keeps h.precision)) keeps_unit)

theorem PositionArray.keeps {b : PositionArray} (values : ∀ x ∈ b.values, PrintsSingle x) :
    codec.Keeps 2 b :=
  Record.Keeps.codec (by decide) rfl
    (.cons (keeps_required _ (keeps_word32 b.itemSize)) <|
     .cons (keeps_required _ (keeps_text b.kind)) <|
     .cons (keeps_required _ (.list fun x hx => keeps_single (values x hx))) <|
     .cons (keeps_defaulted _ false (keeps_bool b.normalized)) keeps_unit)

theorem IndexArray.keeps (b : IndexArray) : codec.Keeps 2 b :=
  Record.Keeps.codec (by decide) rfl
    (.cons (keeps_required _ (keeps_text b.kind)) <|
     .cons (keeps_required _ (.list fun x _ => keeps_word32 x)) keeps_unit)

namespace SceneGeometry

theorem keeps_attributes {b : PositionArray} (values : ∀ x ∈ b.values, PrintsSingle x) :
    attributes.Keeps 3 b :=
  Record.Keeps.codec (by decide) rfl
    (.cons (keeps_required _ (PositionArray.keeps values)) keeps_unit)

theorem keeps_buffers {b : PositionArray} (values : ∀ x ∈ b.values, PrintsSingle x)
    (indices : IndexArray) : buffers.Keeps 4 (b, indices) :=
  Record.Keeps.codec (by decide) rfl
    (.cons (keeps_required _ (keeps_attributes values)) <|
     .cons (keeps_required _ (IndexArray.keeps indices)) keeps_unit)

theorem keeps {g : SceneGeometry} (values : ∀ x ∈ g.positions.values, PrintsSingle x) :
    codec.Keeps 5 g :=
  Record.Keeps.codec (by decide) rfl
    (.cons (keeps_required _ (keeps_text g.uuid)) <|
     .cons (keeps_required _ (keeps_text g.kind)) <|
     .cons (keeps_required _ (keeps_text g.name)) <|
     .cons (keeps_required _ (keeps_buffers values g.indices)) keeps_unit)

end SceneGeometry

theorem SceneMaterial.keeps {m : SceneMaterial} (singles : ∀ x ∈ m.singles, PrintsSingle x) :
    codec.Keeps 1 m := by
  have roughness : PrintsSingle m.roughness := singles _ (by simp [SceneMaterial.singles])
  have metalness : PrintsSingle m.metalness := singles _ (by simp [SceneMaterial.singles])
  have opacity : PrintsSingle m.opacity := singles _ (by simp [SceneMaterial.singles])
  exact Record.Keeps.codec (by decide) rfl
    (.cons (keeps_required _ (keeps_text m.uuid)) <|
     .cons (keeps_required _ (keeps_text m.kind)) <|
     .cons (keeps_required _ (keeps_text m.name)) <|
     .cons (keeps_required _ (keeps_text m.color)) <|
     .cons (keeps_required _ (keeps_single roughness)) <|
     .cons (keeps_required _ (keeps_single metalness)) <|
     .cons (keeps_required _ (keeps_bool m.transparent)) <|
     .cons (keeps_required _ (keeps_single opacity)) keeps_unit)

/-! ## Mesh nodes -/

namespace Transform

theorem keeps_record {t : Transform} (doubles : ∀ x ∈ t.doubles, PrintsDouble x) :
    record.Keeps 1 (t.position, t.rotation, t.scale, ()) := by
  simp only [Transform.doubles, List.mem_append, or_imp, forall_and] at doubles
  obtain ⟨⟨position, rotation⟩, scale⟩ := doubles
  exact .cons (keeps_required _ (keeps_triple position)) <|
    .cons (keeps_required _ (keeps_triple rotation)) <|
    .cons (keeps_required _ (keeps_triple scale)) keeps_unit

theorem keeps {t : Transform} (doubles : ∀ x ∈ t.doubles, PrintsDouble x) : codec.Keeps 2 t :=
  Record.Keeps.codec (by decide) rfl (keeps_record doubles)

end Transform

namespace Draft

theorem keepItems_eq_ok {items : List Draft} (h : ∀ d ∈ items, d.keep = .ok ()) :
    keepItems items = .ok () := by
  induction items with
  | nil => rfl
  | cons d items ih =>
    rw [keepItems, h d List.mem_cons_self]
    exact ih fun d hd => h d (List.mem_cons_of_mem _ hd)

/-- A number that is read as it was printed can also be set aside. -/
theorem keep_double {x : Float} (prints : PrintsDouble x) :
    (ofJson (Codec.double.write x)).keep = .ok () := by
  have read := (keeps_double prints).read
  cases printed : Numeral.ofDouble? x with
  | none => simp [Codec.double, Json.double, printed, ofJson] at read
  | some n =>
    simp only [Codec.double, Json.double, printed, Option.map_some, Option.getD_some, ofJson]
      at read ⊢
    rw [keep]
    cases value : n.toDouble? with
    | none => simp [value] at read
    | some y => rfl

theorem keep_triple {t : Triple Float} (doubles : ∀ x ∈ t.toList, PrintsDouble x) :
    (ofJson (Codec.double.triple.write t)).keep = .ok () := by
  show (Draft.list (ofItems (t.toList.map Codec.double.write)) .closed).keep = .ok ()
  rw [keep, keepItems_eq_ok]
  · rfl
  · intro d hd
    rw [ofItems_eq_map, List.map_map] at hd
    obtain ⟨x, hx, rfl⟩ := List.mem_map.mp hd
    exact keep_double (doubles x hx)

end Draft

namespace BodyNode

/-- The members of the record itself are read as the record reads them. -/
theorem readMembers_own {own : List (String × Json)} (known : ∀ m ∈ own, m.1 ∈ record.keys)
    (rest : List (Option String × Draft)) (s : record.Slots)
    (others : List (Option String × Draft)) :
    readMembers (Draft.ofMembers own ++ rest) s others =
      record.readMembers (Draft.ofMembers own) s >>= fun s => readMembers rest s others := by
  induction own generalizing s with
  | nil => rfl
  | cons m own ih =>
    obtain ⟨k, index⟩ := Option.isSome_iff_exists.mp
      (List.isSome_idxOf?.mpr (known m List.mem_cons_self))
    simp only [Draft.ofMembers, List.cons_append, readMembers, Record.readMembers, index]
    cases record.put k (.ofJson m.2) s with
    | ok s => exact ih (fun m hm => known m (List.mem_cons_of_mem _ hm)) s
    | error fault => rfl

/-- Other members are set aside. -/
theorem readMembers_others {members : List (String × Json)}
    (unknown : ∀ m ∈ members, m.1 ∉ record.keys)
    (kept : ∀ m ∈ members, (Draft.ofJson m.2).keep = .ok ()) (s : record.Slots)
    (others : List (Option String × Draft)) :
    readMembers (Draft.ofMembers members) s others =
      .ok (s, others.reverse ++ Draft.ofMembers members) := by
  induction members generalizing others with
  | nil => simp [Draft.ofMembers, readMembers]
  | cons m members ih =>
    have rest := ih (fun m hm => unknown m (List.mem_cons_of_mem _ hm))
      (fun m hm => kept m (List.mem_cons_of_mem _ hm)) ((some m.1, .ofJson m.2) :: others)
    have index : record.keys.idxOf? m.1 = none :=
      List.idxOf?_eq_none_iff.mpr (unknown m List.mem_cons_self)
    simp only [Draft.ofMembers, readMembers, index, kept m List.mem_cons_self]
    simpa using rest

theorem keeps_record (n : BodyNode) :
    record.Keeps 0 (n.kind, n.name, n.geometry, n.material, ()) :=
  .cons (keeps_required _ (keeps_text n.kind)) <|
  .cons (keeps_required _ (keeps_text n.name)) <|
  .cons (keeps_required _ (keeps_text n.geometry)) <|
  .cons (keeps_required _ (keeps_text n.material)) keeps_unit

/-- The members that a transform adds to those of its node. -/
def transformMembers (t : Transform) : List (String × Json) :=
  Transform.record.write (t.position, t.rotation, t.scale, ())

theorem readMembers_transformMembers {t : Transform} (doubles : ∀ x ∈ t.doubles, PrintsDouble x)
    (s : record.Slots) :
    readMembers (Draft.ofMembers (transformMembers t)) s [] =
      .ok (s, Draft.ofMembers (transformMembers t)) := by
  simp only [Transform.doubles, List.mem_append, or_imp, forall_and] at doubles
  obtain ⟨⟨position, rotation⟩, scale⟩ := doubles
  have listed : transformMembers t =
      [("position", Codec.double.triple.write t.position),
        ("rotation", Codec.double.triple.write t.rotation),
        ("scale", Codec.double.triple.write t.scale)] := rfl
  refine readMembers_others ?_ ?_ s []
  · rw [listed]
    simp [record, Record.cons, Field.required, Record.unit]
  · rw [listed]
    simp [Draft.keep_triple position, Draft.keep_triple rotation, Draft.keep_triple scale]

/-- A mesh node is read back: its own members fill its record, and the others are exactly those that
    its transform was written as. -/
theorem keeps {n : BodyNode} (doubles : ∀ x ∈ n.transform.doubles, PrintsDouble x) :
    codec.Keeps 2 n where
  read := by
    obtain ⟨s, own, finished⟩ := (keeps_record n).read (by decide)
    have transform : Transform.codec.read
        (.object (Draft.ofMembers (transformMembers n.transform)) .closed) = .ok n.transform :=
      (Transform.keeps doubles).read
    have members : readMembers (Draft.ofMembers
        (record.write (n.kind, n.name, n.geometry, n.material, ()) ++
          transformMembers n.transform)) record.blank [] =
        .ok (s, Draft.ofMembers (transformMembers n.transform)) := by
      rw [Draft.ofMembers_append, readMembers_own (keeps_record n).keys, own]
      exact readMembers_transformMembers doubles s
    simp only [codec, Draft.ofJson]
    rw [← transformMembers, members]
    simp only [Ending.check, bind, Except.bind, finished, transform, Except.mapError, pure,
      Except.pure]
  nesting := by
    refine Nat.succ_le_succ (Json.nestingMembers_le fun m hm => ?_)
    rcases List.mem_append.mp hm with own | placed
    · exact Nat.le_trans ((keeps_record n).nesting m own) (by decide)
    · exact (Transform.keeps_record doubles).nesting m placed

end BodyNode

/-! ## The node tree -/

theorem LayerInfo.keeps {i : LayerInfo} (opacity : ∀ x ∈ i.opacity, PrintsSingle x) :
    codec.Keeps 1 i :=
  Record.Keeps.codec (by decide) rfl
    (.cons (keeps_required _ (keeps_text i.layer)) <|
     .cons (keeps_required _ (keeps_bool i.toggleable)) <|
     .cons (keeps_optional _ nofun fun n _ => keeps_word32 n) <|
     .cons (keeps_optional _ nofun fun s _ => keeps_text s) <|
     .cons (keeps_optional _ nofun fun s _ => keeps_text s) <|
     .cons (keeps_optional _ nofun fun x hx => keeps_single (opacity x hx)) keeps_unit)

theorem LayerNode.keeps {n : LayerNode} (opacity : ∀ x ∈ n.info.opacity, PrintsSingle x)
    (doubles : ∀ b ∈ n.children, ∀ x ∈ b.transform.doubles, PrintsDouble x) : codec.Keeps 4 n :=
  Record.Keeps.codec (by decide) rfl
    (.cons (keeps_required _ (keeps_text n.kind)) <|
     .cons (keeps_required _ (keeps_text n.name)) <|
     .cons (keeps_required _ (LayerInfo.keeps opacity)) <|
     .cons (keeps_required _ (.list fun b hb => BodyNode.keeps (doubles b hb))) keeps_unit)

theorem ObjectNode.keeps {n : ObjectNode}
    (opacity : ∀ l ∈ n.children, ∀ x ∈ l.info.opacity, PrintsSingle x)
    (doubles : ∀ l ∈ n.children, ∀ b ∈ l.children, ∀ x ∈ b.transform.doubles, PrintsDouble x) :
    codec.Keeps 6 n :=
  Record.Keeps.codec (by decide) rfl
    (.cons (keeps_required _ (keeps_text n.kind)) <|
     .cons (keeps_required _ (keeps_text n.name)) <|
     .cons (keeps_required _ (.list fun l hl => LayerNode.keeps (opacity l hl) (doubles l hl)))
       keeps_unit)

/-! ## Scenes -/

namespace Scene

theorem keeps {s : Scene} (layers : s.header.layerCount < UInt64.size)
    (statements : s.header.statementCount < UInt64.size)
    (singles : ∀ x ∈ s.singles, PrintsSingle x) (doubles : ∀ x ∈ s.doubles, PrintsDouble x) :
    codec.Keeps 7 s := by
  simp only [Scene.singles, List.mem_cons, List.mem_append, List.mem_flatMap, Option.mem_toList,
    or_imp, forall_and, forall_eq, forall_exists_index, and_imp] at singles
  simp only [Scene.doubles, meshes, List.mem_flatMap, forall_exists_index, and_imp] at doubles
  obtain ⟨version, ⟨values, materials⟩, opacity⟩ := singles
  have geometries : SceneGeometry.codec.list.Keeps 6 s.geometries :=
    .list fun g hg => SceneGeometry.keeps fun x hx => values x g hg hx
  have materials : SceneMaterial.codec.list.Keeps 2 s.materials :=
    .list fun m hm => SceneMaterial.keeps fun x hx => materials x m hm hx
  have root : ObjectNode.codec.Keeps 6 s.root :=
    ObjectNode.keeps (fun l hl x hx => opacity x l hl hx)
      fun l hl b hb x hx => doubles x b l hl hb hx
  exact Record.Keeps.codec (by decide) rfl
    (.cons (keeps_required _ (SceneHeader.keeps version layers statements)) <|
     .cons (keeps_required _ geometries) <|
     .cons (keeps_required _ materials) <|
     .cons (keeps_required _ root) keeps_unit)

/-- A scene is read back from its JSON text, compact or pretty: every list in its order, every
    missing value missing again.  The counts are words of 64 bits, the numbers are finite, and a
    finite number is read as it was printed. -/
theorem ofText_render_scene (layout : Json.Layout) (s : Scene)
    (layers : s.header.layerCount < UInt64.size)
    (statements : s.header.statementCount < UInt64.size)
    (finiteSingles : ∀ x ∈ s.singles, x.isFinite) (finiteDoubles : ∀ x ∈ s.doubles, x.isFinite)
    (printedSingles : ∀ x ∈ s.singles, x.isFinite → PrintsSingle x)
    (printedDoubles : ∀ x ∈ s.doubles, x.isFinite → PrintsDouble x) :
    codec.ofText ((codec.write s).render layout) = .ok s :=
  (keeps layers statements (fun x hx => printedSingles x hx (finiteSingles x hx))
    fun x hx => printedDoubles x hx (finiteDoubles x hx)).ofText_render (by decide) layout

/-- A scene with the largest counts and indices, characters that have to be escaped, a negative
    zero, and an option of either kind. -/
def extreme : Scene where
  header :=
    { version := 4.5
      kind := "Object"
      generator := "say \"a\\b\"\n\x01"
      objectType := ""
      anatomical := true
      layerCount := 18446744073709551615
      statementCount := 0
      precision := .medical }
  geometries :=
    [{ uuid := "g"
       kind := "BufferGeometry"
       name := "é"
       positions := { itemSize := 3, kind := "", values := [0.1, -0.0], normalized := true }
       indices := { kind := "", values := [4294967295, 0] } }]
  materials := []
  root :=
    { kind := "Group"
      name := "\t"
      children :=
        [{ kind := "Group"
           name := "skin"
           info :=
             { layer := "skin"
               toggleable := false
               depth := some 2
               purpose := none
               color := none
               opacity := some 0.25 }
           children :=
             [{ kind := "Mesh"
                name := "cube"
                geometry := "g"
                material := "m"
                transform := .placed ⟨1, -0.5, 0.0000001⟩ (.splat 0) }] }] }

theorem ofText_render_extreme :
    extreme.header.layerCount < UInt64.size ∧ (∀ x ∈ extreme.singles, x.isFinite) ∧
      codec.ofText ((codec.write extreme).render .pretty) = .ok extreme := by
  have finite : ∀ x ∈ extreme.singles, x.isFinite := by decide +kernel
  refine ⟨by decide, finite, ?_⟩
  exact ofText_render_scene .pretty extreme (by decide) (by decide) finite (by decide +kernel)
    (by decide +kernel) (by decide +kernel)

end Scene

end LayeredScene
