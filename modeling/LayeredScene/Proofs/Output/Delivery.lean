import LayeredScene.Proofs.Files.Host
import LayeredScene.Proofs.Output.NumberedFiles

/-! # Delivering pieces one after the other

Pieces are delivered in order, and the first one that cannot be written ends the delivery.  On a
host that writes a file as a whole or not at all, what is left then is the same as if only the
pieces before it had been delivered (`sendAll_cases`).  `Sent` is this relation between worlds, and
what it says of single files is derived from it: files at other places stay as they are, and a file
that no later piece goes to has all bytes of its piece.
-/

namespace LayeredScene

/-! ## Pieces that have been delivered -/

namespace Delivery

/-- The second world is the first after the delivery of some pieces. -/
inductive Sent : World → List Delivery → World → Prop where
  | nothing (w : World) : Sent w [] w
  | file {w w' : World} {p : Path} {bytes : List UInt8} {store : Store} {rest : List Delivery}
      (written : w.store.write p bytes = some store) (others : Sent { w with store } rest w') :
      Sent w (⟨some p, bytes⟩ :: rest) w'
  | screen {w w' : World} {bytes : List UInt8} {rest : List Delivery}
      (others : Sent { w with screen := w.screen ++ bytes } rest w') :
      Sent w (⟨none, bytes⟩ :: rest) w'

/-- The host does not write the piece. -/
def Refused (host : Host (StateM World)) (d : Delivery) (w : World) : Prop :=
  match d.target with
  | some p => host.writeFile p d.bytes w = (false, w)
  | none => host.print d.bytes w = (false, w)

/-! ## One piece and many -/

section

variable {host : Host (StateM World)}

/-- A piece for a file asks the host to write it, and fails if the host does not. -/
theorem run_send_file (host : Host (StateM World)) (p : Path) (bytes : List UInt8) (w : World) :
    (send host ⟨some p, bytes⟩).run w = (unless (host.writeFile p bytes w).1 do
      throw (.inaccessible p) : ExceptT Failure (StateM World) Unit).run
        (host.writeFile p bytes w).2 := rfl

/-- A piece is delivered or refused, and then nothing has changed. -/
theorem send_cases (whole : host.WritesWholeFiles) (d : Delivery) (w : World) :
    (∃ w', (d.send host).run w = (.ok (), w') ∧
      ∀ rest w'', Sent w' rest w'' → Sent w (d :: rest) w'') ∨
    (∃ e, (d.send host).run w = (.error e, w) ∧ Refused host d w) := by
  obtain ⟨target, bytes⟩ := d
  cases target with
  | none =>
    have run : (send host ⟨none, bytes⟩).run w = (unless (host.print bytes w).1 do
        throw (.inaccessible ⟨"<stdout>"⟩) : ExceptT Failure (StateM World) Unit).run
          (host.print bytes w).2 := rfl
    cases whole.print bytes w with
    | inl refused =>
      rw [refused] at run
      exact .inr ⟨_, run, refused⟩
    | inr printed =>
      rw [printed] at run
      exact .inl ⟨_, run, fun rest w'' => .screen⟩
  | some p =>
    have run := run_send_file host p bytes w
    cases whole.writeFile p bytes w with
    | inl refused =>
      rw [refused] at run
      exact .inr ⟨_, run, refused⟩
    | inr done =>
      obtain ⟨store, written, succeeds⟩ := done
      rw [succeeds] at run
      exact .inl ⟨_, run, fun rest w'' => .file written⟩

/-- Either all pieces are delivered, or those before the first one that is refused. -/
theorem sendAll_cases (whole : host.WritesWholeFiles) (ds : List Delivery) (w : World) :
    (∃ w', (sendAll host ds).run w = (.ok (), w') ∧ Sent w ds w') ∨
    (∃ before d after e w', ds = before ++ d :: after ∧
      (sendAll host ds).run w = (.error e, w') ∧ Sent w before w' ∧ Refused host d w') := by
  induction ds generalizing w with
  | nil => exact .inl ⟨w, rfl, .nothing w⟩
  | cons d ds ih =>
    cases send_cases whole d w with
    | inl sent =>
      obtain ⟨next, first, goesOn⟩ := sent
      have run := run_bind_ok first fun _ => sendAll host ds
      cases ih next with
      | inl all =>
        obtain ⟨w', rest, others⟩ := all
        exact .inl ⟨w', run.trans rest, goesOn _ _ others⟩
      | inr some =>
        obtain ⟨before, refused, after, e, w', rfl, rest, others, last⟩ := some
        exact .inr ⟨d :: before, refused, after, e, w', rfl, run.trans rest, goesOn _ _ others,
          last⟩
    | inr refused =>
      obtain ⟨e, first, refused⟩ := refused
      exact .inr ⟨[], d, ds, e, w, rfl, run_bind_error first _, .nothing w, refused⟩

/-- If all files of a delivery are reported as written, they have been. -/
theorem sent_of_sendAll (writes : host.WritesFiles) {ds : List Delivery}
    (files : ∀ d ∈ ds, d.target ≠ none) {w w' : World}
    (ran : (sendAll host ds).run w = (.ok (), w')) : Sent w ds w' := by
  induction ds generalizing w with
  | nil =>
    cases ran
    exact .nothing _
  | cons d ds ih =>
    rw [List.forall_mem_cons] at files
    obtain ⟨target, bytes⟩ := d
    cases target with
    | none => exact absurd rfl files.1
    | some p =>
      have run := run_send_file host p bytes w
      cases written : host.writeFile p bytes w with
      | mk done next =>
        rw [written] at run
        cases done with
        | true =>
          obtain ⟨store, stored, rfl⟩ := writes p bytes w next written
          rw [sendAll, run_bind_ok run fun _ => sendAll host ds] at ran
          exact .file stored (ih files.2 ran)
        | false =>
          rw [sendAll, run_bind_error run fun _ => sendAll host ds] at ran
          cases ran

end

/-! ## What pieces leave behind -/

section

variable {ds : List Delivery} {w w' : World}

theorem Sent.resolve_eq (sent : Sent w ds w') : w'.store.resolve = w.store.resolve := by
  induction sent with
  | nothing w => rfl
  | file written _ ih => exact ih.trans (Store.resolve_of_write written)
  | screen _ ih => exact ih

/-- No piece goes where a folder is. -/
theorem Sent.isFolder_eq_false (sent : Sent w ds w') {d : Delivery} (hd : d ∈ ds) {p : Path}
    (target : d.target = some p) {place : Place} (leads : w.store.resolve p = some place) :
    w.store.isFolder place = false := by
  induction sent with
  | nothing w => cases hd
  | file written _ ih =>
    cases hd with
    | head =>
      obtain ⟨place', leads', free, -⟩ := Store.write_eq_some written
      cases target
      rw [leads'] at leads
      exact Option.some.inj leads ▸ free
    | tail _ hd =>
      have later := ih hd
      rw [Store.resolve_of_write written, Store.isFolder_of_write written] at later
      exact later leads
  | screen _ ih =>
    cases hd with
    | head => cases target
    | tail _ hd => exact ih hd leads

/-- What stands where no piece goes stays as it is. -/
theorem Sent.find?_eq (sent : Sent w ds w') {place : Place}
    (elsewhere : ∀ d ∈ ds, ∀ p, d.target = some p → w.store.resolve p ≠ some place) :
    w'.store.find? place = w.store.find? place := by
  induction sent with
  | nothing w => rfl
  | file written _ ih =>
    rw [List.forall_mem_cons] at elsewhere
    rw [ih, Store.find?_of_write written (elsewhere.1 _ rfl)]
    rw [Store.resolve_of_write written]
    exact elsewhere.2
  | screen _ ih =>
    rw [List.forall_mem_cons] at elsewhere
    exact ih elsewhere.2

/-- Pieces that are all for files change files alone. -/
theorem Sent.eq_of_targets (sent : Sent w ds w') (files : ∀ d ∈ ds, d.target ≠ none) :
    w' = { w with store := w'.store } := by
  induction sent with
  | nothing w => rfl
  | file _ _ ih =>
    rw [List.forall_mem_cons] at files
    exact ih files.2
  | screen => exact absurd rfl (files _ List.mem_cons_self)

/-- The pieces go to different places. -/
def Apart (s : Store) (d e : Delivery) : Prop :=
  ∀ p q place, d.target = some p → e.target = some q → s.resolve p = some place →
    s.resolve q ≠ some place

/-- If the pieces go to different places, each file has the bytes of its piece. -/
theorem Sent.read_eq (sent : Sent w ds w') (apart : ds.Pairwise (Apart w.store)) {d : Delivery}
    (hd : d ∈ ds) {p : Path} (target : d.target = some p) : w'.store.read p = some d.bytes := by
  induction sent with
  | nothing w => cases hd
  | @file w w' q bytes store rest written others ih =>
    rw [List.pairwise_cons] at apart
    have paths := Store.resolve_of_write written
    cases hd with
    | head =>
      obtain rfl : q = p := Option.some.inj target
      -- No later piece goes where this one went.
      rw [Store.read_congr (congrFun others.resolve_eq q), Store.read_of_write written]
      intro place leads
      refine others.find?_eq fun e he r forFile => ?_
      rw [paths] at leads ⊢
      exact apart.1 e he q r place rfl forFile leads
    | tail _ hd =>
      have same : Apart store = Apart w.store := by
        unfold Apart
        rw [paths]
      exact ih (same ▸ apart.2) hd
  | screen _ ih =>
    rw [List.pairwise_cons] at apart
    cases hd with
    | head => cases target
    | tail _ hd => exact ih apart.2 hd

end

end Delivery

/-! ## The pieces of a compilation -/

namespace Compilation

/-- The GLB files of the objects. -/
def glbPieces (c : Compilation) (out : Path) : List Delivery :=
  c.objects.zipIdx.map fun (o, k) =>
    ⟨some (Glb.filePath out k c.objects.length), Glb.ofScene o.scene⟩

/-- The paths that the output of a compilation may go to. -/
def outputPaths (c : Compilation) (format : OutputFormat) (out : Path) : List Path :=
  if format = .glb then
    (List.range c.objects.length).map fun k => Glb.filePath out k c.objects.length
  else [out]

variable {c : Compilation} {out : Path}

theorem exists_deliveries (c : Compilation) {format : OutputFormat} {out : Option Path}
    (path : format = .glb → out ≠ none) (layout : Json.Layout) :
    ∃ ds, c.deliveries format out layout = .ok ds := by
  cases format with
  | json | vls | summary => exact ⟨_, rfl⟩
  | glb =>
    cases out with
    | none => exact absurd rfl (path rfl)
    | some p => exact ⟨_, rfl⟩

/-- A compilation is delivered as its GLB files or as one piece. -/
theorem deliveries_cases {format : OutputFormat} {out : Option Path} {layout : Json.Layout}
    {ds : List Delivery} (pieces : c.deliveries format out layout = .ok ds) :
    (format = .glb ∧ ∃ p, out = some p ∧ ds = c.glbPieces p) ∨
      (format ≠ .glb ∧ ∃ bytes, ds = [⟨out, bytes⟩]) := by
  cases format with
  | json | vls | summary =>
    cases pieces
    exact .inr ⟨nofun, _, rfl⟩
  | glb =>
    cases out with
    | none => cases pieces
    | some p =>
      cases pieces
      exact .inl ⟨rfl, p, rfl, rfl⟩

theorem getElem?_glbPieces (c : Compilation) (out : Path) (k : Nat) :
    (c.glbPieces out)[k]? = c.objects[k]?.map fun o =>
      ⟨some (Glb.filePath out k c.objects.length), Glb.ofScene o.scene⟩ := by
  simp [glbPieces, List.getElem?_zipIdx, Option.map_map, Function.comp_def]

theorem length_glbPieces (c : Compilation) (out : Path) :
    (c.glbPieces out).length = c.objects.length := by
  rw [glbPieces, List.length_map, List.length_zipIdx]

/-- A delivery writes to no file but those that its arguments name. -/
theorem exists_mem_outputPaths {format : OutputFormat} {out : Option Path} {layout : Json.Layout}
    {ds : List Delivery} (pieces : c.deliveries format out layout = .ok ds) {d : Delivery}
    (hd : d ∈ ds) {p : Path} (target : d.target = some p) :
    ∃ o, out = some o ∧ p ∈ c.outputPaths format o := by
  cases deliveries_cases pieces with
  | inl glb =>
    obtain ⟨rfl, o, rfl, rfl⟩ := glb
    obtain ⟨k, hk⟩ := List.mem_iff_getElem?.mp hd
    rw [getElem?_glbPieces] at hk
    obtain ⟨object, listed, rfl⟩ := Option.map_eq_some_iff.mp hk
    cases target
    refine ⟨o, rfl, ?_⟩
    rw [outputPaths, if_pos rfl]
    exact List.mem_map_of_mem (List.mem_range.mpr (List.getElem?_eq_some_iff.mp listed).1)
  | inr single =>
    obtain ⟨other, bytes, rfl⟩ := single
    obtain rfl := List.mem_singleton.mp hd
    refine ⟨p, target, ?_⟩
    rw [outputPaths, if_neg other]
    exact List.mem_singleton_self p

theorem pairwise_glbPieces (c : Compilation) (out : Path) (s : Store) :
    (c.glbPieces out).Pairwise (Delivery.Apart s) := by
  rw [List.pairwise_iff_getElem]
  intro i j hi hj before p q place forP forQ leads
  have piece {k : Nat} (hk : k < (c.glbPieces out).length) : (c.glbPieces out)[k].target =
      some (Glb.filePath out k c.objects.length) := by
    simp [glbPieces]
  rw [piece hi] at forP
  rw [piece hj] at forQ
  cases forP
  cases forQ
  -- There are two pieces, and so there are several objects.
  rw [length_glbPieces] at hj
  exact Glb.apart_filePath (by omega) s out (by omega) leads

/-- The first objects of a compilation have their GLB files, and nothing else is different from the
    world before. -/
structure GlbFiles (c : Compilation) (out : Path) (count : Nat) (w w' : World) : Prop where
  complete : ∀ k < count, ∀ o, c.objects[k]? = some o →
    w'.store.read (Glb.filePath out k c.objects.length) = some (Glb.ofScene o.scene)
  others : ∀ place,
    (∀ k < count, w.store.resolve (Glb.filePath out k c.objects.length) ≠ some place) →
      w'.store.find? place = w.store.find? place
  files_only : w' = { w with store := w'.store }

theorem glbFiles_of_sent {count : Nat} {w w' : World}
    (sent : Delivery.Sent w ((c.glbPieces out).take count) w') : c.GlbFiles out count w w' := by
  have listed {d : Delivery} (hd : d ∈ (c.glbPieces out).take count) :
      ∃ k < count, d.target = some (Glb.filePath out k c.objects.length) := by
    obtain ⟨k, hk⟩ := List.mem_iff_getElem?.mp hd
    rw [List.getElem?_take, getElem?_glbPieces] at hk
    split at hk
    · next before =>
      obtain ⟨o, -, rfl⟩ := Option.map_eq_some_iff.mp hk
      exact ⟨k, before, rfl⟩
    · cases hk
  refine ⟨?_, ?_, ?_⟩
  · intro k hk o ho
    have hd : (⟨some (Glb.filePath out k c.objects.length), Glb.ofScene o.scene⟩ : Delivery) ∈
        (c.glbPieces out).take count := by
      apply List.mem_of_getElem? (i := k)
      rw [List.getElem?_take_of_lt hk, getElem?_glbPieces, ho]
      rfl
    exact sent.read_eq ((pairwise_glbPieces c out w.store).take) hd rfl
  · intro place elsewhere
    refine sent.find?_eq fun d hd p target => ?_
    obtain ⟨k, before, named⟩ := listed hd
    obtain rfl := Option.some.inj (named.symm.trans target)
    exact elsewhere k before
  · refine sent.eq_of_targets fun d hd none => ?_
    obtain ⟨k, -, named⟩ := listed hd
    rw [none] at named
    cases named

end Compilation

end LayeredScene
