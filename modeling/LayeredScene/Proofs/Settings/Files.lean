import LayeredScene.Proofs.Bytes
import LayeredScene.Proofs.Files.Host
import LayeredScene.Proofs.Files.Writing
import LayeredScene.Proofs.Json.Codecs
import LayeredScene.Settings.File

/-! # Settings files

Settings that have been written to a file are read from it again.  A file may also be written by
hand and give only some of the settings: then the others have their defaults, and it makes no
difference in which order the settings are given, how the text is laid out, or what else stands
among them.
-/

namespace LayeredScene

open LayeredScene.Codec (keeps_word32 keeps_word64 keeps_double keeps_bool)
open LayeredScene.Field (keeps_defaulted)
open LayeredScene.Record (keeps_unit)

/-! ## Settings that are given -/

/-- What a name means among the members of an object: there is no such member, or there is only one
and its value stands for this. -/
def Gives {α : Type} (name : String) (standsFor : Json → α → Prop)
    (members : List (String × Json)) : Option α → Prop
  | none => ∀ m ∈ members, m.1 ≠ name
  | some a => ∃ j, members.filter (·.1 == name) = [(name, j)] ∧ standsFor j a

/-- Some of the mesh settings. -/
structure MeshOverrides where
  sphereSegments : Option UInt32 := none
  cylinderSegments : Option UInt32 := none
  blobSegments : Option UInt32 := none
  blobJitter : Option Float := none
  seed : Option UInt64 := none

/-- Some of the output settings. -/
structure OutputOverrides where
  parallel : Option Bool := none
  pretty : Option Bool := none

/-- Some of the settings; a group may also be given without any setting in it. -/
structure Overrides where
  mesh : Option MeshOverrides := none
  output : Option OutputOverrides := none

/-- The settings with those replaced that are given. -/
def MeshOverrides.over (o : MeshOverrides) (s : MeshSettings) : MeshSettings where
  sphereSegments := o.sphereSegments.getD s.sphereSegments
  cylinderSegments := o.cylinderSegments.getD s.cylinderSegments
  blobSegments := o.blobSegments.getD s.blobSegments
  blobJitter := o.blobJitter.getD s.blobJitter
  seed := o.seed.getD s.seed

def OutputOverrides.over (o : OutputOverrides) (s : OutputSettings) : OutputSettings where
  parallel := o.parallel.getD s.parallel
  pretty := o.pretty.getD s.pretty

def Overrides.over (o : Overrides) (s : Settings) : Settings where
  mesh := (o.mesh.map (·.over s.mesh)).getD s.mesh
  output := (o.output.map (·.over s.output)).getD s.output

/-- The members give these settings.  Members with other names may be anything. -/
structure MeshOverrides.GivenBy (o : MeshOverrides) (members : List (String × Json)) : Prop where
  sphereSegments : Gives "sphere_segments" (fun j n => j = .nat n.toNat) members o.sphereSegments
  cylinderSegments :
    Gives "cylinder_segments" (fun j n => j = .nat n.toNat) members o.cylinderSegments
  blobSegments : Gives "blob_segments" (fun j n => j = .nat n.toNat) members o.blobSegments
  blobJitter :
    Gives "blob_jitter" (fun j x => ∃ n : Numeral, j = .number n ∧ n.toDouble? = some x) members
      o.blobJitter
  seed : Gives "seed" (fun j n => j = .nat n.toNat) members o.seed

structure OutputOverrides.GivenBy (o : OutputOverrides) (members : List (String × Json)) :
    Prop where
  parallel : Gives "parallel" (fun j b => j = .bool b) members o.parallel
  pretty : Gives "pretty" (fun j b => j = .bool b) members o.pretty

structure Overrides.GivenBy (o : Overrides) (members : List (String × Json)) : Prop where
  mesh : Gives "geometry" (fun j g => ∃ inner, j = .object inner ∧ g.GivenBy inner) members o.mesh
  output : Gives "export" (fun j g => ∃ inner, j = .object inner ∧ g.GivenBy inner) members o.output

/-! ## Reading what is given -/

variable {α : Type} {depth : Nat} {members : List (String × Json)}

theorem Gives.map {β : Type} {name : String} {standsFor : Json → α → Prop} {o : Option α}
    (given : Gives name standsFor members o) (f : α → β) :
    Gives name (fun j b => ∃ a, standsFor j a ∧ b = f a) members (o.map f) := by
  cases o with
  | none => exact given
  | some a =>
    obtain ⟨j, only, meant⟩ := given
    exact ⟨j, only, a, meant, rfl⟩

theorem faultless_membersWithin : Faultless (Draft.membersWithin depth members) := by
  intro m hm
  rw [Draft.membersWithin_eq_map] at hm
  obtain ⟨m, -, rfl⟩ := List.mem_map.mp hm
  exact ⟨Option.some_ne_none _, Draft.skip_within depth m.2⟩

/-- A field that may be left out has what its member stands for, or else its default. -/
theorem finds_of_gives {name : String} {c : Codec α} {absent : α} {standsFor : Json → α → Prop}
    {o : Option α} (given : Gives name standsFor members o)
    (reads : ∀ j a, standsFor j a → c.read (.within depth j) = .ok a) :
    (Field.defaulted name c absent).Finds (Draft.membersWithin depth members) (o.getD absent) := by
  have same : (Field.defaulted name c absent).members (Draft.membersWithin depth members) =
      (members.filter (·.1 == name)).map fun m => (some m.1, .within depth m.2) := by
    rw [Field.members, Draft.membersWithin_eq_map, List.filter_map]
    rfl
  rw [Field.Finds, same]
  cases o with
  | none =>
    have none : members.filter (·.1 == name) = [] :=
      List.filter_eq_nil_iff.mpr fun m hm => by simpa using given m hm
    exact .inl ⟨by rw [none, List.map_nil], rfl⟩
  | some a =>
    obtain ⟨j, only, meant⟩ := given
    exact .inr ⟨_, by rw [only]; rfl, reads j a meant⟩

theorem read_word32 (j : Json) (n : UInt32) (h : j = .nat n.toNat) :
    Codec.word32.read (.within depth j) = .ok n := by
  subst h
  exact (Codec.keeps_word32 n).read

theorem read_word64 (j : Json) (n : UInt64) (h : j = .nat n.toNat) :
    Codec.word64.read (.within depth j) = .ok n := by
  subst h
  exact (Codec.keeps_word64 n).read

theorem read_bool (j : Json) (b : Bool) (h : j = .bool b) :
    Codec.bool.read (.within depth j) = .ok b := by
  subst h
  rfl

theorem read_double (j : Json) (x : Float)
    (h : ∃ n : Numeral, j = .number n ∧ n.toDouble? = some x) :
    Codec.double.read (.within depth j) = .ok x := by
  obtain ⟨n, rfl, value⟩ := h
  rw [Draft.within]
  simp only [Codec.double, value]

theorem read_object {r : Record α} {β : Type} {make : α → β} {unmake : β → α} {a : α}
    (fits : depth + 1 < depthLimit) (takes : r.Takes (Draft.membersWithin (depth + 1) members) a) :
    (r.codec make unmake).read (.within depth (.object members)) = .ok (make a) := by
  rw [Draft.within, Scan.enclose_of_lt fits]
  exact takes.read_codec make unmake

theorem MeshSettings.read_given {o : MeshOverrides} (given : o.GivenBy members)
    (fits : depth + 1 < depthLimit) :
    MeshSettings.codec.read (.within depth (.object members)) = .ok (o.over {}) :=
  read_object fits <|
    .cons (by decide) faultless_membersWithin (finds_of_gives given.sphereSegments read_word32) <|
    .cons (by decide) faultless_membersWithin (finds_of_gives given.cylinderSegments read_word32) <|
    .cons (by decide) faultless_membersWithin (finds_of_gives given.blobSegments read_word32) <|
    .cons (by decide) faultless_membersWithin (finds_of_gives given.blobJitter read_double) <|
    .cons (by decide) faultless_membersWithin (finds_of_gives given.seed read_word64) <|
    Record.takes_unit faultless_membersWithin

theorem OutputSettings.read_given {o : OutputOverrides} (given : o.GivenBy members)
    (fits : depth + 1 < depthLimit) :
    OutputSettings.codec.read (.within depth (.object members)) = .ok (o.over {}) :=
  read_object fits <|
    .cons (by decide) faultless_membersWithin (finds_of_gives given.parallel read_bool) <|
    .cons (by decide) faultless_membersWithin (finds_of_gives given.pretty read_bool) <|
    Record.takes_unit faultless_membersWithin

namespace Settings

theorem read_given {o : Overrides} (given : o.GivenBy members) :
    codec.read (.within 0 (.object members)) = .ok (o.over {}) := by
  have mesh : ∀ j s, (∃ g : MeshOverrides, (∃ inner, j = .object inner ∧ g.GivenBy inner) ∧
      s = g.over {}) → MeshSettings.codec.read (.within 1 j) = .ok s := by
    rintro _ _ ⟨g, ⟨inner, rfl, given⟩, rfl⟩
    exact MeshSettings.read_given given (by decide)
  have output : ∀ j s, (∃ g : OutputOverrides, (∃ inner, j = .object inner ∧ g.GivenBy inner) ∧
      s = g.over {}) → OutputSettings.codec.read (.within 1 j) = .ok s := by
    rintro _ _ ⟨g, ⟨inner, rfl, given⟩, rfl⟩
    exact OutputSettings.read_given given (by decide)
  have takes : record.Takes (Draft.membersWithin 1 members)
      ((o.mesh.map (·.over {})).getD {}, (o.output.map (·.over {})).getD {}, ()) :=
    .cons (by decide) faultless_membersWithin (finds_of_gives (given.mesh.map _) mesh) <|
    .cons (by decide) faultless_membersWithin (finds_of_gives (given.output.map _) output) <|
    Record.takes_unit faultless_membersWithin
  exact read_object (by decide) takes

/-- A text that gives some of the settings is read, however it spells them. -/
theorem ofText_given {o : Overrides} (given : o.GivenBy members) {text : String}
    (spelled : (Json.object members).IsSpelledBy text) : codec.ofText text = .ok (o.over {}) := by
  rw [Codec.ofText, Document.read_spelled spelled]
  simp only [read_given given, Bool.false_eq_true, if_false]

/-! ## Files -/

variable {host : Host (StateM World)} {path : Path} {w w' : World}

theorem run_readAt (host : Host (StateM World)) (path : Path) (w : World) :
    ((readAt host path).run w).1 = ofFile path (host.readFile path w).1 := rfl

theorem ofFile_utf8 {text : String} {s : Settings} (read : codec.ofText text = .ok s) :
    ofFile path (some (utf8 text)) = .ok s := by
  rw [ofFile, Option.bind_some, text?_utf8]
  simp only [read]
  rfl

theorem exists_writeFile {s : Settings} (h : (writeAt host s path).run w = (.ok (), w')) :
    ∃ w₁, host.writeFile path (utf8 s.fileText) w₁ = (true, w') := by
  -- Whatever becomes of the folder, the file is written last.
  have last {w₁ : World} (h : (do
      if ← host.writeFile path (utf8 s.fileText) then pure ()
      else throw (.inaccessible path) : ExceptT Failure (StateM World) Unit).run w₁ =
        (.ok (), w')) : host.writeFile path (utf8 s.fileText) w₁ = (true, w') := by
    obtain ⟨done, w₂, ran, h⟩ := exists_of_run_bind_ok h
    cases done with
    | false => cases h
    | true =>
      cases h
      change (Except.ok (host.writeFile path _ w₁).1, (host.writeFile path _ w₁).2) = _ at ran
      obtain ⟨result, state⟩ := Prod.mk.inj ran
      exact Prod.ext (Except.ok.inj result) state
  unfold writeAt at h
  dsimp only at h
  split at h
  · obtain ⟨made, w₁, -, h⟩ := exists_of_run_bind_ok h
    split at h
    · exact ⟨w₁, last h⟩
    · cases h
  · exact ⟨w, last h⟩

theorem keeps {s : Settings} (printed : PrintsDouble s.mesh.blobJitter) : codec.Keeps 2 s := by
  have mesh : MeshSettings.codec.Keeps 1 s.mesh :=
    Record.Keeps.codec (by decide) rfl
      (.cons (keeps_defaulted _ _ (keeps_word32 _)) <|
       .cons (keeps_defaulted _ _ (keeps_word32 _)) <|
       .cons (keeps_defaulted _ _ (keeps_word32 _)) <|
       .cons (keeps_defaulted _ _ (keeps_double printed)) <|
       .cons (keeps_defaulted _ _ (keeps_word64 _)) keeps_unit)
  have output : OutputSettings.codec.Keeps 1 s.output :=
    Record.Keeps.codec (by decide) rfl
      (.cons (keeps_defaulted _ _ (keeps_bool _)) <|
       .cons (keeps_defaulted _ _ (keeps_bool _)) keeps_unit)
  exact Record.Keeps.codec (by decide) rfl
    (.cons (keeps_defaulted _ _ mesh) <| .cons (keeps_defaulted _ _ output) keeps_unit)

/-- Settings are read back from the file to which they have been written, if the jitter is finite
    and read as it was printed.  And a file with an object that gives some of the settings is read
    as the default settings with those replaced. -/
theorem readAt_files (remembers : host.Remembers) :
    (∀ (s : Settings) path w w', s.mesh.blobJitter.isFinite →
      (s.mesh.blobJitter.isFinite → PrintsDouble s.mesh.blobJitter) →
      (writeAt host s path).run w = (.ok (), w') → ((readAt host path).run w').1 = .ok s) ∧
    ∀ members (o : Overrides) text path w, (Json.object members).IsSpelledBy text →
      o.GivenBy members → (host.readFile path w).1 = some (utf8 text) →
      ((readAt host path).run w).1 = .ok (o.over {}) := by
  constructor
  · intro s path w w' finite printed done
    obtain ⟨w₁, written⟩ := exists_writeFile done
    rw [run_readAt, remembers path _ w₁ w' written]
    exact ofFile_utf8 ((keeps (printed finite)).ofText_render (by decide) .pretty)
  · intro members o text path w spelled given content
    rw [run_readAt, content]
    exact ofFile_utf8 (ofText_given given spelled)

def chosen : Settings where
  mesh := { sphereSegments := 0, blobJitter := 0.1, seed := 18446744073709551615 }
  output := { parallel := false }

/-- An object with an unknown member and with a name that is spelled in an unusual way. -/
def handwritten : String :=
  "\x7b \"b\":[],\"geometry\"\t:\x7b\"s\\u0065ed\":42\x7d\x7d"

def handwrittenMembers : List (String × Json) :=
  [("b", .list []), ("geometry", .object [("seed", .nat 42)])]

theorem isSpelledBy_handwritten : (Json.object handwrittenMembers).IsSpelledBy handwritten := by
  have seed : SpellsChars ['s', 'e', 'e', 'd'] ['s', '\\', 'u', '0', '0', '6', '5', 'e', 'd'] :=
    .plain (by decide) (by decide) (by decide) <|
      .unit ⟨0, 0, 6, 5, '0', '0', '6', '5', rfl, by decide, by decide, by decide, by decide,
        rfl⟩ <| .of_plain (by simp)
  have b : SpellsChars ['b'] ['b'] := .of_plain (by simp)
  have geometry : SpellsChars ['g', 'e', 'o', 'm', 'e', 't', 'r', 'y'] _ := .of_plain (by simp)
  have number : (Json.nat 42).Spells "42".toList := by
    rw [Json.nat, Json.Spells]
    exact ⟨[], rfl, by decide⟩
  have inner : (Json.object [("seed", .nat 42)]).Spells "\x7b\"s\\u0065ed\":42\x7d".toList := by
    rw [Json.Spells]
    exact ⟨"\"s\\u0065ed\":42".toList, ⟨[], _, [], by decide,
      ⟨_, [], [], _, ⟨_, seed, rfl⟩, by decide, by decide, number, rfl⟩, by decide, rfl⟩, rfl⟩
  have unknown : SpellsMember "b" (Json.list []).Spells "\"b\":[]".toList := by
    refine ⟨_, [], [], "[]".toList, ⟨_, b, rfl⟩, by decide, by decide, ?_, rfl⟩
    rw [Json.Spells]
    exact ⟨[], (by decide : Json.IsGap []), rfl⟩
  have member : SpellsMember "geometry" (Json.object [("seed", .nat 42)]).Spells
      "\"geometry\"\t:\x7b\"s\\u0065ed\":42\x7d".toList :=
    ⟨_, ['\t'], [], _, ⟨_, geometry, rfl⟩, by decide, by decide, inner, rfl⟩
  refine ⟨[], handwritten.toList, [], by decide, ?_, by decide, rfl⟩
  rw [Json.Spells]
  exact ⟨" \"b\":[],\"geometry\"\t:\x7b\"s\\u0065ed\":42\x7d".toList,
    ⟨" \"b\":[]".toList, _, ⟨[' '], _, [], by decide, unknown, by decide, rfl⟩,
      ⟨[], _, [], by decide, member, by decide, rfl⟩, rfl⟩, rfl⟩

/-- One group is given, with one of its settings. -/
theorem givenBy_handwritten :
    Overrides.GivenBy { mesh := some { seed := some 42 } } handwrittenMembers where
  mesh := by
    refine ⟨.object [("seed", .nat 42)], by simp [handwrittenMembers], _, rfl, ?_⟩
    constructor <;> simp [Gives]
  output := by
    simp [Gives, handwrittenMembers]

theorem readAt_files_chosen_and_handwritten :
    (World.host.Remembers ∧ chosen.mesh.blobJitter.isFinite ∧
      PrintsDouble chosen.mesh.blobJitter ∧
      ∃ w', (writeAt World.host chosen ⟨"conf/settings.json"⟩).run {} = (.ok (), w') ∧
        ((readAt World.host ⟨"conf/settings.json"⟩).run w').1 = .ok chosen) ∧
    ∃ w : World, (World.host.readFile ⟨"own.json"⟩ w).1 = some (utf8 handwritten) ∧
      ((readAt World.host ⟨"own.json"⟩).run w).1 = .ok { mesh := { seed := 42 } } := by
  obtain ⟨written, byHand⟩ := readAt_files World.remembers_host
  have finite : chosen.mesh.blobJitter.isFinite := by decide +kernel
  have printed : PrintsDouble chosen.mesh.blobJitter := by decide +kernel
  have done : (writeAt World.host chosen ⟨"conf/settings.json"⟩).run {} =
      (.ok (), ((writeAt World.host chosen ⟨"conf/settings.json"⟩).run {}).2) :=
    Prod.ext (by decide +kernel) rfl
  refine ⟨⟨World.remembers_host, finite, printed, _, done,
    written _ _ _ _ finite (fun _ => printed) done⟩,
    { store := { entries := [(["home", "user", "own.json"], .file (utf8 handwritten))] } },
    by decide +kernel, ?_⟩
  exact byHand _ _ _ _ _ isSpelledBy_handwritten givenBy_handwritten (by decide +kernel)

end Settings

end LayeredScene
