import LayeredScene.CommandLine.Program
import LayeredScene.Proofs.Compilation.Objects
import LayeredScene.Proofs.Output.Delivery

/-! # What a run leaves behind

A run reads, compiles and only then delivers.  Nothing before the delivery changes the world, and a
delivery of one piece changes it only if it works; so a run that fails leaves nothing, unless it
fails at a file of several.
-/

namespace LayeredScene

namespace Program

variable {host : Host (StateM World)} {a : Arguments} {w w' : World} {s : Settings}
  {text : String} {c : Compilation}

/-! ## Reading -/

theorem reads_readFile (whole : host.WritesWholeFiles) (path : Path) :
    Reads (ExceptT.lift (host.readFile path)) :=
  Reads.of_lift (whole.readFile path)

theorem reads_settings (whole : host.WritesWholeFiles) (a : Arguments) :
    Reads (Program.settings host a) := by
  unfold Program.settings
  cases a.settings with
  | none =>
    refine Reads.bind ?_ fun base => Reads.of_pure (.ok (a.adjust base))
    exact Reads.of_lift fun w => whole.readPreferences w
  | some path =>
    refine Reads.bind ?_ fun base => Reads.of_pure (.ok (a.adjust base))
    exact (reads_readFile whole path).bind fun content =>
      Reads.of_pure (Settings.ofFile path content)

theorem reads_source (whole : host.WritesWholeFiles) (a : Arguments) :
    Reads (Program.source host a) := by
  unfold Program.source
  cases a.input with
  | none => exact Reads.of_pure _
  | some input =>
    cases input with
    | standardInput =>
      refine (Reads.of_lift whole.readInput).bind fun content => ?_
      cases content.bind text? with
      | none => exact Reads.of_pure _
      | some text => exact Reads.of_pure (.ok text)
    | file path =>
      refine (reads_readFile whole path).bind fun content => ?_
      cases content.bind text? with
      | none => exact Reads.of_pure _
      | some text => exact Reads.of_pure (.ok text)

/-! ## Compiling -/

/-- What the run of some arguments compiles, which do not ask for help: the settings and the text
    that it reads, and the compilation that comes of them. -/
structure Compiles (host : Host (StateM World)) (a : Arguments) (w : World) (s : Settings)
    (text : String) (c : Compilation) : Prop where
  help : a.help = false
  settings : ((Program.settings host a).run w).1 = .ok s
  source : ((Program.source host a).run w).1 = .ok text
  compiled : Compilation.ofSource s text = .ok c

theorem compile_of_compiles (whole : host.WritesWholeFiles) (h : Compiles host a w s text c) :
    (compile host a).run w =
      (do
        if c.objects.isEmpty then throw .noStatements
        c.deliver host a.format a.out (.ofPretty s.output.pretty)
        return .done : ExceptT Failure (StateM World) Outcome).run w := by
  unfold compile
  rw [run_bind_ok ((reads_settings whole a).run_eq h.settings),
    run_bind_ok ((reads_source whole a).run_eq h.source), h.compiled]

/-- Without a compilation the run fails and leaves the world as it is. -/
theorem compile_of_not_compiles (whole : host.WritesWholeFiles) (help : a.help = false)
    (none : ∀ s text c, ¬ Compiles host a w s text c) :
    (compile host a).run w = (.ok .overflowed, w) ∨
      ∃ e, (compile host a).run w = (.error e, w) := by
  unfold compile
  cases settings : ((Program.settings host a).run w).1 with
  | error e => exact .inr ⟨e, run_bind_error ((reads_settings whole a).run_eq settings) _⟩
  | ok s =>
    rw [run_bind_ok ((reads_settings whole a).run_eq settings)]
    cases source : ((Program.source host a).run w).1 with
    | error e => exact .inr ⟨e, run_bind_error ((reads_source whole a).run_eq source) _⟩
    | ok text =>
      rw [run_bind_ok ((reads_source whole a).run_eq source)]
      cases compiled : Compilation.ofSource s text with
      | error e => left; rfl
      | ok c => exact absurd ⟨help, settings, source, compiled⟩ (none s text c)

theorem Compiles.unique {s' : Settings} {text' : String} {c' : Compilation}
    (h : Compiles host a w s text c) (h' : Compiles host a w s' text' c') : c = c' := by
  cases Except.ok.inj (h.settings.symm.trans h'.settings)
  cases Except.ok.inj (h.source.symm.trans h'.source)
  exact Except.ok.inj (h.compiled.symm.trans h'.compiled)

/-! ## How a run ends -/

/-- The ways in which a run can end, with its outcome and what it leaves. -/
inductive Ends (host : Host (StateM World)) (words : List String) (w : World) :
    Outcome → World → Prop where
  | misused {failure : Failure} (refused : Arguments.ofWords words = .error failure) :
      Ends host words w (.misused failure) w
  | helped {a : Arguments} (parsed : Arguments.ofWords words = .ok a) (help : a.help = true) :
      Ends host words w .done { w with screen := w.screen ++ utf8 (usage ++ "\n") }
  | unprinted {a : Arguments} (parsed : Arguments.ofWords words = .ok a) (help : a.help = true) :
      Ends host words w .unprinted w
  | notCompiled {a : Arguments} {outcome : Outcome} (parsed : Arguments.ofWords words = .ok a)
      (none : ∀ s text c, ¬ Compiles host a w s text c)
      (fails : outcome = .overflowed ∨ ∃ e, outcome = .failed e) : Ends host words w outcome w
  | empty {a : Arguments} {s : Settings} {text : String} {c : Compilation}
      (parsed : Arguments.ofWords words = .ok a) (compiles : Compiles host a w s text c)
      (none : c.objects = []) : Ends host words w (.failed .noStatements) w
  | delivered {a : Arguments} {s : Settings} {text : String} {c : Compilation}
      {ds : List Delivery} {w' : World} (parsed : Arguments.ofWords words = .ok a)
      (compiles : Compiles host a w s text c) (some : c.objects ≠ [])
      (pieces : c.deliveries a.format a.out (.ofPretty s.output.pretty) = .ok ds)
      (sent : Delivery.Sent w ds w') : Ends host words w .done w'
  | stopped {a : Arguments} {s : Settings} {text : String} {c : Compilation} {e : Failure}
      {before after : List Delivery} {d : Delivery} {w' : World}
      (parsed : Arguments.ofWords words = .ok a) (compiles : Compiles host a w s text c)
      (pieces : c.deliveries a.format a.out (.ofPretty s.output.pretty) =
        .ok (before ++ d :: after))
      (sent : Delivery.Sent w before w') (refused : d.Refused host w') :
      Ends host words w (.failed e) w'

variable {words : List String}

/-- Arguments that ask for GLB files have a path for them. -/
theorem out_ne_none (parsed : Arguments.ofWords words = .ok a)
    (help : a.help = false) (glb : a.format = .glb) : a.out ≠ none := by
  obtain ⟨scanned, -, checked⟩ := bind_eq_ok parsed
  unfold Arguments.check at checked
  split at checked
  · next helps =>
    cases checked
    rw [helps] at help
    cases help
  · split at checked
    · cases checked
    · split at checked
      · cases checked
      · next complete =>
        cases checked
        intro none
        exact complete ⟨glb, by rw [none]; rfl⟩

theorem compile_of_pieces (whole : host.WritesWholeFiles) (h : Compiles host a w s text c)
    (some : c.objects ≠ []) {ds : List Delivery}
    (pieces : c.deliveries a.format a.out (.ofPretty s.output.pretty) = .ok ds) :
    (compile host a).run w =
      (do
        Delivery.sendAll host ds
        return .done : ExceptT Failure (StateM World) Outcome).run w := by
  have filled : c.objects.isEmpty = false := by simpa using some
  rw [compile_of_compiles whole h, filled, Compilation.deliver, pieces]
  rfl

/-- The run of arguments that ask for help prints it and does nothing else. -/
theorem run_of_help (parsed : Arguments.ofWords words = .ok a) (help : a.help = true)
    {printed : Bool} (ran : host.print (utf8 (usage ++ "\n")) w = (printed, w')) :
    (Program.run host words).run w = (if printed then .done else .unprinted, w') := by
  unfold Program.run
  rw [parsed]
  simp only [help, if_true]
  have ran : StateT.run (host.print (utf8 (usage ++ "\n"))) w = (printed, w') := ran
  rw [StateT.run_bind, ran]
  rfl

/-- The outcome of a run whose compilation ends in some way. -/
def concluded : Except Failure Outcome → Outcome
  | .ok outcome => outcome
  | .error failure => .failed failure

/-- The run of arguments that ask for no help goes as the compilation goes. -/
theorem run_of_compile (parsed : Arguments.ofWords words = .ok a)
    (help : a.help = false) {r : Except Failure Outcome}
    (ran : (compile host a).run w = (r, w')) :
    (Program.run host words).run w = (concluded r, w') := by
  unfold Program.run
  rw [parsed]
  simp only [help, Bool.false_eq_true, if_false]
  have ran : StateT.run (compile host a).run w = (r, w') := ran
  rw [StateT.run_bind, ran]
  cases r with
  | ok outcome => rfl
  | error failure => rfl

theorem ends_of_not_compiles (whole : host.WritesWholeFiles)
    (parsed : Arguments.ofWords words = .ok a) (help : a.help = false)
    (none : ∀ s text c, ¬ Compiles host a w s text c) :
    Ends host words w ((Program.run host words).run w).1 ((Program.run host words).run w).2 := by
  cases compile_of_not_compiles whole help none with
  | inl overflowed =>
    rw [run_of_compile parsed help overflowed]
    exact .notCompiled parsed none (.inl rfl)
  | inr failed =>
    obtain ⟨e, run⟩ := failed
    rw [run_of_compile parsed help run]
    exact .notCompiled parsed none (.inr ⟨e, rfl⟩)

theorem ends_of_compiles (whole : host.WritesWholeFiles)
    (parsed : Arguments.ofWords words = .ok a) (compiles : Compiles host a w s text c) :
    Ends host words w ((Program.run host words).run w).1 ((Program.run host words).run w).2 := by
  by_cases none : c.objects = []
  · have run := compile_of_compiles whole compiles
    rw [none] at run
    rw [run_of_compile parsed compiles.help run]
    exact .empty parsed compiles none
  · obtain ⟨ds, pieces⟩ := c.exists_deliveries (out_ne_none parsed compiles.help)
      (.ofPretty s.output.pretty)
    have run := compile_of_pieces whole compiles none pieces
    cases Delivery.sendAll_cases whole ds w with
    | inl all =>
      obtain ⟨w', sending, sent⟩ := all
      rw [run_bind_ok sending] at run
      rw [run_of_compile parsed compiles.help run]
      exact .delivered parsed compiles none pieces sent
    | inr some =>
      obtain ⟨before, d, after, e, w', rfl, sending, sent, refused⟩ := some
      rw [run_bind_error sending] at run
      rw [run_of_compile parsed compiles.help run]
      exact .stopped parsed compiles pieces sent refused

/-- All that a run can do: every property of runs here goes by cases on this. -/
theorem run_ends (whole : host.WritesWholeFiles) (words : List String) (w : World) :
    Ends host words w ((Program.run host words).run w).1 ((Program.run host words).run w).2 := by
  cases parsed : Arguments.ofWords words with
  | error failure =>
    unfold Program.run
    rw [parsed]
    exact .misused parsed
  | ok a =>
    cases help : a.help with
    | true =>
      obtain refused | printed := whole.print (utf8 (usage ++ "\n")) w
      · rw [run_of_help parsed help refused]
        exact .unprinted parsed help
      · rw [run_of_help parsed help printed]
        exact .helped parsed help
    | false =>
      by_cases compiles : ∃ s text c, Compiles host a w s text c
      · obtain ⟨s, text, c, compiles⟩ := compiles
        exact ends_of_compiles whole parsed compiles
      · simp only [not_exists] at compiles
        exact ends_of_not_compiles whole parsed help compiles

/-! ## What is left -/

variable {outcome : Outcome}

theorem Ends.exitCode_eq_two_iff (ends : Ends host words w outcome w') :
    outcome.exitCode = 2 ↔ ∃ failure, Arguments.ofWords words = .error failure := by
  have other {a : Arguments} (parsed : Arguments.ofWords words = .ok a) :
      ¬ ∃ failure, Arguments.ofWords words = .error failure := by
    rintro ⟨failure, refused⟩
    cases parsed.symm.trans refused
  cases ends with
  | misused refused => exact iff_of_true rfl ⟨_, refused⟩
  | notCompiled parsed _ fails =>
    refine iff_of_false ?_ (other parsed)
    rcases fails with rfl | ⟨e, rfl⟩ <;> simp [Outcome.exitCode]
  | helped parsed | unprinted parsed | empty parsed | delivered parsed | stopped parsed =>
    exact iff_of_false (by simp [Outcome.exitCode]) (other parsed)

/-- Objects have their GLB files up to the one whose file is refused. -/
def GlbStopped (host : Host (StateM World)) (c : Compilation) (out : Path) (w w' : World) : Prop :=
  ∃ n o, c.objects[n]? = some o ∧ c.GlbFiles out n w w' ∧
    host.writeFile (Glb.filePath out n c.objects.length) (Glb.ofScene o.scene) w' = (false, w')

theorem glbStopped_of_sent {out : Path} {before after : List Delivery} {d : Delivery}
    (listed : c.glbPieces out = before ++ d :: after) (sent : Delivery.Sent w before w')
    (refused : d.Refused host w') : GlbStopped host c out w w' := by
  have front : (c.glbPieces out).take before.length = before := by rw [listed, List.take_left]
  have here : (c.glbPieces out)[before.length]? = some d := by rw [listed]; simp
  rw [Compilation.getElem?_glbPieces] at here
  obtain ⟨o, ho, rfl⟩ := Option.map_eq_some_iff.mp here
  refine ⟨before.length, o, ho, Compilation.glbFiles_of_sent ?_, refused⟩
  rw [front]
  exact sent

/-- A failing run that does not write several files leaves the world as it is. -/
theorem Ends.eq_of_failure (ends : Ends host words w outcome w') (fails : outcome.exitCode ≠ 0)
    (single : ∀ a s text c, Arguments.ofWords words = .ok a → Compiles host a w s text c →
      a.format = .glb → c.objects.length < 2) : w' = w := by
  cases ends with
  | misused | unprinted | notCompiled | empty => rfl
  | helped | delivered => exact absurd rfl fails
  | @stopped a s text c e before after d w' parsed compiles pieces sent refused =>
    have one : (before ++ d :: after).length < 2 := by
      cases Compilation.deliveries_cases pieces with
      | inl glb =>
        obtain ⟨glb, p, -, listed⟩ := glb
        rw [listed, Compilation.length_glbPieces]
        exact single a s text c parsed compiles glb
      | inr others =>
        obtain ⟨-, bytes, listed⟩ := others
        rw [listed]
        exact Nat.one_lt_two
    -- The piece that is refused is the only one, and nothing was delivered before it.
    have none : before = [] := by
      rw [List.length_append, List.length_cons] at one
      exact List.eq_nil_of_length_eq_zero (by omega)
    rw [none] at sent
    cases sent
    rfl

theorem Ends.glbStopped_of_failure (ends : Ends host words w outcome w')
    (fails : outcome.exitCode ≠ 0) (parsed : Arguments.ofWords words = .ok a)
    (compiles : Compiles host a w s text c) (glb : a.format = .glb) {out : Path}
    (path : a.out = some out) (several : 2 ≤ c.objects.length) : GlbStopped host c out w w' := by
  cases ends with
  | misused refused => cases parsed.symm.trans refused
  | helped | delivered => exact absurd rfl fails
  | unprinted parsed' help =>
    cases parsed.symm.trans parsed'
    cases compiles.help.symm.trans help
  | notCompiled parsed' none =>
    cases parsed.symm.trans parsed'
    exact absurd compiles (none s text c)
  | empty parsed' compiles' none =>
    cases parsed.symm.trans parsed'
    cases compiles.unique compiles'
    rw [none] at several
    cases several
  | stopped parsed' compiles' pieces sent refused =>
    cases parsed.symm.trans parsed'
    cases compiles.unique compiles'
    cases Compilation.deliveries_cases pieces with
    | inr others => exact absurd glb others.1
    | inl all =>
      obtain ⟨-, p, path', listed⟩ := all
      cases path.symm.trans path'
      exact glbStopped_of_sent listed.symm sent refused

/-- A run that works has compiled a text with lines that count, and wrote to no place but those of
    its output paths. -/
theorem Ends.of_success (ends : Ends host words w outcome w') (works : outcome.exitCode = 0) :
    ∃ a, Arguments.ofWords words = .ok a ∧ (a.help = false →
      ∃ s text c, Compiles host a w s text c ∧ NumberedLine.ofSource text ≠ [] ∧
        ∀ place, w'.store.find? place ≠ w.store.find? place →
          ∃ out p, a.out = some out ∧ p ∈ c.outputPaths a.format out ∧
            w.store.resolve p = some place) := by
  cases ends with
  | misused | unprinted | empty | stopped => cases works
  | notCompiled _ _ fails => rcases fails with rfl | ⟨e, rfl⟩ <;> cases works
  | helped parsed help =>
    refine ⟨_, parsed, fun other => ?_⟩
    rw [help] at other
    cases other
  | @delivered a s text c ds w' parsed compiles some pieces sent =>
    refine ⟨a, parsed, fun _ => ⟨s, text, c, compiles, ?_, ?_⟩⟩
    · intro none
      have count := Compilation.length_objects compiles.compiled
      rw [Block.ofSource, none] at count
      exact some (List.eq_nil_of_length_eq_zero count)
    · intro place changed
      -- A place to which no output path leads is one where no piece goes.
      by_contra elsewhere
      refine changed (sent.find?_eq fun d hd p target leads => elsewhere ?_)
      obtain ⟨out, path, listed⟩ := Compilation.exists_mem_outputPaths pieces hd target
      exact ⟨out, p, path, listed, leads⟩

/-- What the exit code of a run says of what the run leaves behind.  The code is 2 exactly if the
    arguments are refused.  Unless it is 0, the world is as it was, but for one case: where several
    objects are written as GLB files, those before the first refused file have theirs, with all
    bytes, and the others have not been touched.  If it is 0 and no help was asked for, there was a
    line that counts, and only files at the output paths have changed. -/
theorem run_footprint (whole : host.WritesWholeFiles)
    (ran : (Program.run host words).run w = (outcome, w')) :
    (outcome.exitCode = 2 ↔ ∃ failure, Arguments.ofWords words = .error failure) ∧
    (outcome.exitCode ≠ 0 →
      ((∀ a s text c, Arguments.ofWords words = .ok a → Compiles host a w s text c →
          a.format = .glb → c.objects.length < 2) → w' = w) ∧
      ∀ a s text c out, Arguments.ofWords words = .ok a → Compiles host a w s text c →
        a.format = .glb → a.out = some out → 2 ≤ c.objects.length → GlbStopped host c out w w') ∧
    (outcome.exitCode = 0 → ∃ a, Arguments.ofWords words = .ok a ∧ (a.help = false →
      ∃ s text c, Compiles host a w s text c ∧ NumberedLine.ofSource text ≠ [] ∧
        ∀ place, w'.store.find? place ≠ w.store.find? place →
          ∃ out p, a.out = some out ∧ p ∈ c.outputPaths a.format out ∧
            w.store.resolve p = some place)) := by
  have ends := run_ends whole words w
  rw [ran] at ends
  refine ⟨ends.exitCode_eq_two_iff, fun fails => ⟨ends.eq_of_failure fails, ?_⟩, ends.of_success⟩
  intro a s text c out parsed compiles glb path several
  exact ends.glbStopped_of_failure fails parsed compiles glb path several

/-- Above the working folder there is a folder that has the name of the second of two files. -/
def blocked : World where
  store := { entries := [(["home", "out-2.glb"], .folder)] }
  input := utf8 "BOX > side > cube\nLID > top > cube"

def blockedWords : List String := ["--format", "glb", "--out", "../out.glb", "-"]

/-- Two objects are to be written, and the file of the second is refused. -/
theorem run_footprint_blocked :
    ∃ outcome w' c, (Program.run World.host blockedWords).run blocked = (outcome, w') ∧
      outcome.exitCode = 1 ∧ c.objects.length = 2 ∧
      GlbStopped World.host c ⟨"../out.glb"⟩ blocked w' ∧
      (w'.store.read ⟨"/home/out-1.glb"⟩).isSome := by
  have parsed : Arguments.ofWords blockedWords =
      .ok { input := some .standardInput, format := .glb, out := some ⟨"../out.glb"⟩ } := by
    decide +kernel
  obtain ⟨c, compiled, two⟩ := exists_eq_ok_of
    (x := Compilation.ofSource {} "BOX > side > cube\nLID > top > cube")
    (p := fun c => c.objects.length = 2) (by decide +kernel)
  have two := of_decide_eq_true two
  have compiles : Compiles World.host
      { input := some .standardInput, format := .glb, out := some ⟨"../out.glb"⟩ } blocked {}
      "BOX > side > cube\nLID > top > cube" c := ⟨rfl, rfl, by decide +kernel, compiled⟩
  have exitCode : ((Program.run World.host blockedWords).run blocked).1.exitCode = 1 := by
    decide +kernel
  have first : (((Program.run World.host blockedWords).run blocked).2.store.read
      ⟨"/home/out-1.glb"⟩).isSome := by decide +kernel
  cases ran : (Program.run World.host blockedWords).run blocked with
  | mk outcome w' =>
    rw [ran] at exitCode first
    obtain ⟨-, failure, -⟩ := run_footprint World.writesWholeFiles_host ran
    refine ⟨outcome, w', c, rfl, exitCode, two, ?_, first⟩
    refine (failure ?_).2 _ _ _ _ _ parsed compiles rfl rfl (by omega)
    rw [exitCode]
    decide

end Program

end LayeredScene
