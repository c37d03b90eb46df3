import LayeredScene.Proofs.CommandLine.Groups
import LayeredScene.Proofs.Text.WholeNumbers

/-! # The first wrong argument decides

What an argument is depends on the arguments to its left: the word behind a flag is a value,
whatever it looks like.  So the words of a command line are cut from the left into pieces: a switch,
a flag with its value, or an input.  The cut goes on for as long as no piece is in error
(`Accepted`), and what is left then is nothing, or it is refused because of its first or its second
word (`Refused`).  There is such a cut for all words (`exists_cut`), and the scan goes along it, so
that the cut decides what becomes of the words (`decided_ofWords`).
-/

namespace LayeredScene

/-! ## Known words -/

/-- The words that stand for themselves. -/
def Switch.words : List String := ["--help", "-h", "--sequential", "--compact"]

/-- The words that take the next one as their value. -/
def Flag.words : List String := ["--format", "--out", "--settings", "--seed"]

section

variable {word : String}

theorem Switch.ofWord?_eq_none (noSwitch : word ∉ Switch.words) : Switch.ofWord? word = none := by
  simp only [Switch.words, List.mem_cons, List.not_mem_nil, or_false, not_or] at noSwitch
  unfold Switch.ofWord?
  split <;> simp_all

theorem Flag.ofWord?_eq_none (noFlag : word ∉ Flag.words) : Flag.ofWord? word = none := by
  simp only [Flag.words, List.mem_cons, List.not_mem_nil, or_false, not_or] at noFlag
  unfold Flag.ofWord?
  split <;> simp_all

theorem Flag.notMem_switches (h : word ∈ Flag.words) : word ∉ Switch.words := by
  simp only [Flag.words, List.mem_cons, List.not_mem_nil, or_false] at h
  rcases h with rfl | rfl | rfl | rfl <;> decide

end

namespace Arguments

/-! ## Pieces -/

inductive Piece where
  | switch (word : String)
  | assignment (flag value : String)
  | input (word : String)
deriving DecidableEq

namespace Piece

def words : Piece → List String
  | switch word => [word]
  | assignment flag value => [flag, value]
  | input word => [word]

@[simp] def valueOf? (flag : String) : Piece → Option String
  | assignment other value => if other = flag then some value else none
  | switch _ | input _ => none

@[simp] def input? : Piece → Option String
  | input word => some word
  | switch _ | assignment _ _ => none

end Piece

/-- Does a flag take a value?  A format goes by its name in whatever case, a seed is a whole number
    of 64 bits, and a path can be anything. -/
def Takes (flag value : String) : Prop :=
  (flag = "--format" → Text.lowerAscii value ∈ ["json", "vls", "glb", "summary"]) ∧
    (flag = "--seed" → Text.SpellsBelow UInt64.size value)

/-- Pieces from the left of which none is in error. -/
inductive Accepted : List Piece → Prop where
  | nil : Accepted []
  | switch {pieces : List Piece} {word : String} :
      Accepted pieces → word ∈ Switch.words → Accepted (pieces ++ [.switch word])
  | assignment {pieces : List Piece} {flag value : String} :
      Accepted pieces → flag ∈ Flag.words → Takes flag value →
      Accepted (pieces ++ [.assignment flag value])
  | input {pieces : List Piece} {word : String} :
      Accepted pieces → word ∉ Switch.words → word ∉ Flag.words → ¬ ['-', '-'] <+: word.toList →
      (∀ other, .input other ∉ pieces) → Accepted (pieces ++ [.input word])

/-- Words that are refused behind some pieces, and why. -/
inductive Refused (pieces : List Piece) : List String → Failure → Prop where
  | flag {flag : String} : flag ∈ Flag.words → Refused pieces [flag] (.flagWithoutValue flag)
  | value {flag value : String} {rest : List String} :
      flag ∈ Flag.words → ¬ Takes flag value →
      Refused pieces (flag :: value :: rest) (.valueRefused flag value)
  | argument {word : String} {rest : List String} :
      word ∉ Switch.words → word ∉ Flag.words →
      (['-', '-'] <+: word.toList ∨ ∃ other, .input other ∈ pieces) →
      Refused pieces (word :: rest) (.argumentRefused word)

/-! ## What pieces amount to -/

section

variable (pieces : List Piece)

/-- The last value that a flag is given. -/
def lastValue? (flag : String) : Option String :=
  pieces.reverse.findSome? (Piece.valueOf? flag)

def lastInput? : Option String :=
  pieces.reverse.findSome? Piece.input?

/-- The arguments that pieces amount to: of several values of a flag the last one counts, and what
    no piece mentions is as it is from the start. -/
def amount : Arguments where
  input := (lastInput? pieces).map fun word => if word = "-" then .standardInput else .file ⟨word⟩
  format := ((lastValue? pieces "--format").bind OutputFormat.ofName?).getD .json
  out := (lastValue? pieces "--out").map Path.mk
  seed := (lastValue? pieces "--seed").bind fun value =>
    (Text.wholeNumber? UInt64.size value).map UInt64.ofNat
  settings := (lastValue? pieces "--settings").map Path.mk
  sequential := .switch "--sequential" ∈ pieces
  compact := .switch "--compact" ∈ pieces
  help := .switch "--help" ∈ pieces ∨ .switch "-h" ∈ pieces

def AsksForHelp : Prop := .switch "--help" ∈ pieces ∨ .switch "-h" ∈ pieces

def GivesInput : Prop := ∃ word, .input word ∈ pieces

def GivesOutputPath : Prop := ∃ path, .assignment "--out" path ∈ pieces

/-- The last format that is named is the one for GLB files. -/
def AsksForGlb : Prop := ∃ name ∈ lastValue? pieces "--format", Text.lowerAscii name = "glb"

end

section

variable {pieces : List Piece} {word : String}

@[simp] theorem lastValue?_concat (p : Piece) (flag : String) :
    lastValue? (pieces ++ [p]) flag = (p.valueOf? flag).or (lastValue? pieces flag) := by
  rw [lastValue?, List.reverse_concat, List.findSome?_cons]
  cases p.valueOf? flag <;> rfl

@[simp] theorem lastInput?_concat (p : Piece) :
    lastInput? (pieces ++ [p]) = p.input?.or (lastInput? pieces) := by
  rw [lastInput?, List.reverse_concat, List.findSome?_cons]
  cases p.input? <;> rfl

theorem isSome_lastInput?_iff : (lastInput? pieces).isSome ↔ GivesInput pieces := by
  rw [lastInput?, List.findSome?_isSome_iff]
  constructor
  · rintro ⟨p, hp, isInput⟩
    cases p with
    | input word => exact ⟨word, List.mem_reverse.mp hp⟩
    | switch | assignment => cases isInput
  · rintro ⟨word, hp⟩
    exact ⟨_, List.mem_reverse.mpr hp, rfl⟩

theorem isSome_lastValue?_iff {flag : String} :
    (lastValue? pieces flag).isSome ↔ ∃ value, .assignment flag value ∈ pieces := by
  rw [lastValue?, List.findSome?_isSome_iff]
  constructor
  · rintro ⟨p, hp, isValue⟩
    cases p with
    | assignment other value =>
      obtain rfl : other = flag := by simpa using isValue
      exact ⟨value, List.mem_reverse.mp hp⟩
    | switch | input => cases isValue
  · rintro ⟨value, hp⟩
    exact ⟨_, List.mem_reverse.mpr hp, by simp⟩

theorem help_amount : (amount pieces).help = true ↔ AsksForHelp pieces :=
  decide_eq_true_iff

theorem isNone_input_amount : (amount pieces).input.isNone = true ↔ ¬ GivesInput pieces := by
  rw [← isSome_lastInput?_iff]
  simp [amount]

theorem isNone_out_amount : (amount pieces).out.isNone = true ↔ ¬ GivesOutputPath pieces := by
  rw [GivesOutputPath, ← isSome_lastValue?_iff]
  simp [amount]

theorem ofName?_eq_some_iff {name : String} {format : OutputFormat} :
    OutputFormat.ofName? name = some format ↔ Text.lowerAscii name = format.name := by
  refine ⟨fun found => ?_, Group.ofName?_of_lowerAscii⟩
  have named := List.find?_some (p := fun f : OutputFormat => f.name == Text.lowerAscii name) found
  exact (beq_iff_eq.mp named).symm

theorem isSome_ofName?_iff {name : String} : (OutputFormat.ofName? name).isSome ↔
    Text.lowerAscii name ∈ ["json", "vls", "glb", "summary"] := by
  simp only [Option.isSome_iff_exists, ofName?_eq_some_iff, List.mem_cons, List.not_mem_nil,
    or_false]
  constructor
  · rintro ⟨format, named⟩
    cases format <;> simp [named, OutputFormat.name]
  · rintro (named | named | named | named)
    · exact ⟨.json, named⟩
    · exact ⟨.vls, named⟩
    · exact ⟨.glb, named⟩
    · exact ⟨.summary, named⟩

theorem format_amount : (amount pieces).format = .glb ↔ AsksForGlb pieces := by
  simp only [amount, AsksForGlb]
  cases lastValue? pieces "--format" with
  | none => simp
  | some name =>
    have glb : OutputFormat.ofName? name = some .glb ↔ Text.lowerAscii name = "glb" :=
      ofName?_eq_some_iff
    simp only [Option.bind_some, Option.mem_def, Option.some.injEq, exists_eq_left', ← glb]
    cases OutputFormat.ofName? name <;> simp

/-! ## One piece more -/

theorem exists_switch (h : word ∈ Switch.words) (pieces : List Piece) :
    ∃ switch, Switch.ofWord? word = some switch ∧
      (amount pieces).turnOn switch = amount (pieces ++ [.switch word]) := by
  simp only [Switch.words, List.mem_cons, List.not_mem_nil, or_false] at h
  rcases h with rfl | rfl | rfl | rfl <;>
    exact ⟨_, rfl, by simp [amount, turnOn]⟩

theorem exists_flag (h : word ∈ Flag.words) (pieces : List Piece) (value : String) :
    ∃ flag, Flag.ofWord? word = some flag ∧
      (Takes word value → (amount pieces).assign? flag value =
        some (amount (pieces ++ [.assignment word value]))) ∧
      (¬ Takes word value → (amount pieces).assign? flag value = none) := by
  simp only [Flag.words, List.mem_cons, List.not_mem_nil, or_false] at h
  rcases h with rfl | rfl | rfl | rfl
  · refine ⟨.format, rfl, fun takes => ?_, fun refused => ?_⟩
    · obtain ⟨format, named⟩ := Option.isSome_iff_exists.mp (isSome_ofName?_iff.mpr (takes.1 rfl))
      simp [amount, assign?, named]
    · simpa [Takes, assign?, ← isSome_ofName?_iff, -List.mem_cons] using refused
  · refine ⟨.out, rfl, fun _ => ?_, fun refused => ?_⟩
    · simp [amount, assign?]
    · simp [Takes] at refused
  · refine ⟨.settings, rfl, fun _ => ?_, fun refused => ?_⟩
    · simp [amount, assign?]
    · simp [Takes] at refused
  · refine ⟨.seed, rfl, fun takes => ?_, fun refused => ?_⟩
    · obtain ⟨n, spelled⟩ :=
        Option.isSome_iff_exists.mp (Text.isSome_wholeNumber?_iff.mpr (takes.2 rfl))
      simp [amount, assign?, spelled]
    · simpa [Takes, assign?, ← Text.isSome_wholeNumber?_iff] using refused

theorem feed?_amount (plain : ¬ ['-', '-'] <+: word.toList) (first : ¬ GivesInput pieces) :
    (amount pieces).feed? word = some (amount (pieces ++ [.input word])) := by
  have new : (amount pieces).input = none :=
    Option.isNone_iff_eq_none.mp (isNone_input_amount.mpr first)
  rw [Group.feed?_of_plain new plain]
  simp [amount]

theorem feed?_amount_eq_none (wrong : ['-', '-'] <+: word.toList ∨ GivesInput pieces) :
    (amount pieces).feed? word = none := by
  have wrong : ((amount pieces).input.isSome || looksLikeFlag word) = true := by
    rw [Bool.or_eq_true, looksLikeFlag, List.isPrefixOf_iff_prefix, or_comm]
    exact wrong.imp_right fun given => by simpa [amount] using isSome_lastInput?_iff.mpr given
  rw [feed?, if_pos wrong]

end

/-! ## Along the cut -/

section

variable {pieces : List Piece} {rest : List String} {e : Failure}

theorem scan_accepted (accepted : Accepted pieces) (rest : List String) :
    scan {} (pieces.flatMap Piece.words ++ rest) = scan (amount pieces) rest := by
  induction accepted generalizing rest with
  | nil => rfl
  | @switch pieces word _ isSwitch ih =>
    obtain ⟨switch, known, turned⟩ := exists_switch isSwitch pieces
    rw [List.flatMap_append, List.append_assoc, ih, ← turned]
    exact Group.scan_switch _ switch known rest
  | @assignment pieces word value _ isFlag takes ih =>
    obtain ⟨flag, known, assigned, -⟩ := exists_flag isFlag pieces value
    rw [List.flatMap_append, List.append_assoc, ih]
    have noSwitch := Switch.ofWord?_eq_none (Flag.notMem_switches isFlag)
    exact Group.scan_flag noSwitch known (assigned takes) rest
  | @input pieces word _ noSwitch noFlag plain first ih =>
    rw [List.flatMap_append, List.append_assoc, ih]
    exact Group.scan_input (Switch.ofWord?_eq_none noSwitch) (Flag.ofWord?_eq_none noFlag)
      (feed?_amount plain fun ⟨other, given⟩ => first other given) rest

theorem scan_refused (refused : Refused pieces rest e) : scan (amount pieces) rest = .error e := by
  cases refused with
  | @flag word isFlag =>
    obtain ⟨flag, known, -⟩ := exists_flag isFlag pieces ""
    simp only [scan, Switch.ofWord?_eq_none (Flag.notMem_switches isFlag), known]
  | @value word value _ isFlag refused =>
    obtain ⟨flag, known, -, assigned⟩ := exists_flag isFlag pieces value
    simp only [scan, Switch.ofWord?_eq_none (Flag.notMem_switches isFlag), known, assigned refused]
  | argument noSwitch noFlag wrong =>
    simp only [scan, Switch.ofWord?_eq_none noSwitch, Flag.ofWord?_eq_none noFlag,
      feed?_amount_eq_none wrong]

/-- The words behind some pieces can be cut into more pieces that are accepted, until nothing is
    left or what is left is refused. -/
def CanBeCut (pieces : List Piece) (words : List String) : Prop :=
  ∃ more rest, words = more.flatMap Piece.words ++ rest ∧ Accepted (pieces ++ more) ∧
    (rest = [] ∨ ∃ e, Refused (pieces ++ more) rest e)

theorem CanBeCut.piece {p : Piece} (h : CanBeCut (pieces ++ [p]) rest) :
    CanBeCut pieces (p.words ++ rest) := by
  obtain ⟨more, rest, rfl, accepted, ended⟩ := h
  rw [List.append_assoc] at accepted ended
  exact ⟨p :: more, rest, by simp, accepted, ended⟩

theorem CanBeCut.of_refused (accepted : Accepted pieces) (refused : Refused pieces rest e) :
    CanBeCut pieces rest :=
  ⟨[], rest, rfl, by simpa using accepted, .inr ⟨e, by simpa using refused⟩⟩

end

theorem Accepted.canBeCut {pieces : List Piece} (accepted : Accepted pieces) :
    (words : List String) → CanBeCut pieces words
  | [] => ⟨[], [], rfl, by simpa using accepted, .inl rfl⟩
  | word :: rest => by
    by_cases isSwitch : word ∈ Switch.words
    · exact ((accepted.switch isSwitch).canBeCut rest).piece
    by_cases isFlag : word ∈ Flag.words
    · match rest with
      | [] => exact .of_refused accepted (.flag isFlag)
      | value :: rest =>
        by_cases takes : Takes word value
        · exact ((accepted.assignment isFlag takes).canBeCut rest).piece
        · exact .of_refused accepted (.value isFlag takes)
    by_cases wrong : ['-', '-'] <+: word.toList ∨ GivesInput pieces
    · exact .of_refused accepted (.argument isSwitch isFlag wrong)
    · obtain ⟨plain, first⟩ := not_or.mp wrong
      have input := accepted.input isSwitch isFlag plain fun other given => first ⟨other, given⟩
      exact (input.canBeCut rest).piece

/-- All words can be cut into pieces that are accepted and a rest that is empty or refused. -/
theorem exists_cut (words : List String) : ∃ pieces rest, Accepted pieces ∧
    words = pieces.flatMap Piece.words ++ rest ∧ (rest = [] ∨ ∃ e, Refused pieces rest e) := by
  obtain ⟨pieces, rest, cut, accepted, ended⟩ := Accepted.nil.canBeCut words
  exact ⟨pieces, rest, accepted, cut, ended⟩

/-! ## The decision -/

/-- Pieces are complete if they ask for help, or else give an input, and a path if they ask for GLB
    files. -/
def Complete (pieces : List Piece) : Prop :=
  AsksForHelp pieces ∨ GivesInput pieces ∧ ¬ (AsksForGlb pieces ∧ ¬ GivesOutputPath pieces)

/-- What pieces lack that are not complete. -/
inductive Missing (pieces : List Piece) : Failure → Prop where
  | input : ¬ AsksForHelp pieces → ¬ GivesInput pieces → Missing pieces .noInput
  | outputPath : ¬ AsksForHelp pieces → GivesInput pieces → AsksForGlb pieces →
      ¬ GivesOutputPath pieces → Missing pieces .noOutputPath

/-- The pieces that some words are cut into, with none in error and no word left. -/
structure CutInto (words : List String) (pieces : List Piece) : Prop where
  accepted : Accepted pieces
  words_eq : words = pieces.flatMap Piece.words

section

variable {pieces : List Piece} {words rest : List String} {e : Failure} {a : Arguments}

theorem check_amount_cases (pieces : List Piece) :
    Complete pieces ∧ (amount pieces).check = .ok (amount pieces) ∨
      ∃ e, Missing pieces e ∧ (amount pieces).check = .error e := by
  rw [check]
  split_ifs with help none path
  · exact .inl ⟨.inl (help_amount.mp help), rfl⟩
  · exact .inr ⟨_, .input (mt help_amount.mpr help) (isNone_input_amount.mp none), rfl⟩
  · have given := not_not.mp (mt isNone_input_amount.mpr none)
    exact .inr ⟨_, .outputPath (mt help_amount.mpr help) given (format_amount.mp path.1)
      (isNone_out_amount.mp path.2), rfl⟩
  · have given := not_not.mp (mt isNone_input_amount.mpr none)
    refine .inl ⟨.inr ⟨given, fun wanted => path ?_⟩, rfl⟩
    exact wanted.imp format_amount.mpr isNone_out_amount.mpr

theorem Missing.not_complete (missing : Missing pieces e) : ¬ Complete pieces := by
  cases missing with
  | input noHelp none => exact not_or.mpr ⟨noHelp, fun given => none given.1⟩
  | outputPath noHelp _ glb none => exact not_or.mpr ⟨noHelp, fun given => given.2 ⟨glb, none⟩⟩

theorem Missing.unique {e' : Failure} (missing : Missing pieces e) (missing' : Missing pieces e') :
    e = e' := by
  cases missing with
  | input _ none =>
    cases missing' with
    | input => rfl
    | outputPath _ given => exact absurd given none
  | outputPath _ given =>
    cases missing' with
    | input _ none => exact absurd given none
    | outputPath => rfl

theorem CutInto.ofWords_eq (cut : CutInto words pieces) :
    ofWords words = (amount pieces).check := by
  have scanned := scan_accepted cut.accepted []
  rw [List.append_nil, ← cut.words_eq] at scanned
  rw [ofWords, scanned]
  rfl

theorem ofWords_of_refused (accepted : Accepted pieces) (refused : Refused pieces rest e) :
    ofWords (pieces.flatMap Piece.words ++ rest) = .error e := by
  rw [ofWords, scan_accepted accepted, scan_refused refused]
  rfl

/-- Either the words are cut into pieces, complete or not, or some of them are refused. -/
theorem ofWords_cases (words : List String) :
    (∃ pieces, CutInto words pieces ∧ Complete pieces ∧ ofWords words = .ok (amount pieces)) ∨
      (∃ pieces e, CutInto words pieces ∧ Missing pieces e ∧ ofWords words = .error e) ∨
      ∃ pieces rest e, Accepted pieces ∧ words = pieces.flatMap Piece.words ++ rest ∧
        Refused pieces rest e ∧ ofWords words = .error e := by
  obtain ⟨pieces, rest, accepted, split, rfl | ⟨e, refused⟩⟩ := exists_cut words
  · have cut : CutInto words pieces := ⟨accepted, by simpa using split⟩
    rw [cut.ofWords_eq]
    obtain ⟨complete, checked⟩ | ⟨e, missing, checked⟩ := check_amount_cases pieces
    · exact .inl ⟨pieces, cut, complete, checked⟩
    · exact .inr (.inl ⟨pieces, e, cut, missing, checked⟩)
  · exact .inr (.inr ⟨pieces, rest, e, accepted, split, refused,
      split ▸ ofWords_of_refused accepted refused⟩)

theorem ofWords_eq_ok_iff : ofWords words = .ok a ↔
    ∃ pieces, CutInto words pieces ∧ Complete pieces ∧ a = amount pieces := by
  constructor
  · intro read
    obtain ⟨pieces, cut, complete, same⟩ | ⟨_, _, _, _, same⟩ | ⟨_, _, _, _, _, _, same⟩ :=
      ofWords_cases words <;> cases read.symm.trans same
    exact ⟨pieces, cut, complete, rfl⟩
  · rintro ⟨pieces, cut, complete, rfl⟩
    rw [cut.ofWords_eq]
    obtain ⟨-, checked⟩ | ⟨e, missing, -⟩ := check_amount_cases pieces
    · exact checked
    · exact absurd complete missing.not_complete

theorem ofWords_eq_error_iff : ofWords words = .error e ↔
    (∃ pieces, CutInto words pieces ∧ Missing pieces e) ∨
      ∃ pieces rest, Accepted pieces ∧ words = pieces.flatMap Piece.words ++ rest ∧
        Refused pieces rest e := by
  constructor
  · intro read
    obtain ⟨_, _, _, same⟩ | ⟨pieces, _, cut, missing, same⟩ |
      ⟨pieces, rest, _, accepted, split, refused, same⟩ :=
      ofWords_cases words <;> cases read.symm.trans same
    · exact .inl ⟨pieces, cut, missing⟩
    · exact .inr ⟨pieces, rest, accepted, split, refused⟩
  · rintro (⟨pieces, cut, missing⟩ | ⟨pieces, rest, accepted, rfl, refused⟩)
    · rw [cut.ofWords_eq]
      obtain ⟨complete, -⟩ | ⟨e', missing', checked⟩ := check_amount_cases pieces
      · exact absurd complete missing.not_complete
      · rw [missing.unique missing', checked]
    · exact ofWords_of_refused accepted refused

/-! ## Each failure -/

theorem ofWords_eq_argumentRefused_iff {word : String} :
    ofWords words = .error (.argumentRefused word) ↔
      ∃ pieces rest, Accepted pieces ∧ words = pieces.flatMap Piece.words ++ word :: rest ∧
        word ∉ Switch.words ∧ word ∉ Flag.words ∧
        (['-', '-'] <+: word.toList ∨ GivesInput pieces) := by
  rw [ofWords_eq_error_iff]
  constructor
  · rintro (⟨_, _, ⟨⟩⟩ | ⟨pieces, _, accepted, split, refused⟩)
    cases refused with
    | argument noSwitch noFlag wrong => exact ⟨pieces, _, accepted, split, noSwitch, noFlag, wrong⟩
  · rintro ⟨pieces, rest, accepted, split, noSwitch, noFlag, wrong⟩
    exact .inr ⟨pieces, _, accepted, split, .argument noSwitch noFlag wrong⟩

theorem ofWords_eq_valueRefused_iff {flag value : String} :
    ofWords words = .error (.valueRefused flag value) ↔
      ∃ pieces rest, Accepted pieces ∧
        words = pieces.flatMap Piece.words ++ flag :: value :: rest ∧
        flag ∈ Flag.words ∧ ¬ Takes flag value := by
  rw [ofWords_eq_error_iff]
  constructor
  · rintro (⟨_, _, ⟨⟩⟩ | ⟨pieces, _, accepted, split, refused⟩)
    cases refused with
    | value isFlag refused => exact ⟨pieces, _, accepted, split, isFlag, refused⟩
  · rintro ⟨pieces, rest, accepted, split, isFlag, refused⟩
    exact .inr ⟨pieces, _, accepted, split, .value isFlag refused⟩

theorem ofWords_eq_flagWithoutValue_iff {flag : String} :
    ofWords words = .error (.flagWithoutValue flag) ↔
      ∃ pieces, Accepted pieces ∧ words = pieces.flatMap Piece.words ++ [flag] ∧
        flag ∈ Flag.words := by
  rw [ofWords_eq_error_iff]
  constructor
  · rintro (⟨_, _, ⟨⟩⟩ | ⟨pieces, _, accepted, split, refused⟩)
    cases refused with
    | flag isFlag => exact ⟨pieces, accepted, split, isFlag⟩
  · rintro ⟨pieces, accepted, split, isFlag⟩
    exact .inr ⟨pieces, _, accepted, split, .flag isFlag⟩

theorem ofWords_eq_noInput_iff : ofWords words = .error .noInput ↔
    ∃ pieces, CutInto words pieces ∧ ¬ AsksForHelp pieces ∧ ¬ GivesInput pieces := by
  rw [ofWords_eq_error_iff]
  constructor
  · rintro (⟨pieces, cut, missing⟩ | ⟨_, _, _, _, ⟨⟩⟩)
    cases missing with
    | input noHelp none => exact ⟨pieces, cut, noHelp, none⟩
  · rintro ⟨pieces, cut, noHelp, none⟩
    exact .inl ⟨pieces, cut, .input noHelp none⟩

theorem ofWords_eq_noOutputPath_iff : ofWords words = .error .noOutputPath ↔
    ∃ pieces, CutInto words pieces ∧ ¬ AsksForHelp pieces ∧ GivesInput pieces ∧
      AsksForGlb pieces ∧ ¬ GivesOutputPath pieces := by
  rw [ofWords_eq_error_iff]
  constructor
  · rintro (⟨pieces, cut, missing⟩ | ⟨_, _, _, _, ⟨⟩⟩)
    cases missing with
    | outputPath noHelp given glb none => exact ⟨pieces, cut, noHelp, given, glb, none⟩
  · rintro ⟨pieces, cut, noHelp, given, glb, none⟩
    exact .inl ⟨pieces, cut, .outputPath noHelp given glb none⟩

/-- There are no other failures. -/
theorem failure_cases (failed : ofWords words = .error e) :
    (∃ word, e = .argumentRefused word) ∨ (∃ flag value, e = .valueRefused flag value) ∨
      (∃ flag, e = .flagWithoutValue flag) ∨ e = .noInput ∨ e = .noOutputPath := by
  obtain ⟨_, _, missing⟩ | ⟨_, _, _, _, refused⟩ := ofWords_eq_error_iff.mp failed
  · cases missing <;> simp
  · cases refused <;> simp

/-! ## More words -/

/-- What is refused stays refused with other words behind it, except for a flag without a value. -/
theorem Refused.append (refused : Refused pieces rest e)
    (valued : ∀ flag, e ≠ .flagWithoutValue flag) (more : List String) :
    Refused pieces (rest ++ more) e := by
  cases refused with
  | flag => exact absurd rfl (valued _)
  | value isFlag refused => exact .value isFlag refused
  | argument noSwitch noFlag wrong => exact .argument noSwitch noFlag wrong

theorem ofWords_append (refused : ofWords words = .error e)
    (kind : (∃ word, e = .argumentRefused word) ∨ ∃ flag value, e = .valueRefused flag value)
    (more : List String) : ofWords (words ++ more) = .error e := by
  rw [ofWords_eq_error_iff] at refused ⊢
  obtain ⟨_, _, missing⟩ | ⟨pieces, rest, accepted, rfl, refused⟩ := refused
  · cases missing <;> simp at kind
  · have valued : ∀ flag, e ≠ .flagWithoutValue flag := by
      rintro flag rfl
      simp at kind
    exact .inr ⟨pieces, rest ++ more, accepted, List.append_assoc .., refused.append valued more⟩

theorem Accepted.length_inputs_le (accepted : Accepted pieces) :
    (pieces.filterMap Piece.input?).length ≤ 1 := by
  induction accepted with
  | nil => exact Nat.zero_le 1
  | switch _ _ ih => simpa [List.filterMap_cons] using ih
  | assignment _ _ _ ih => simpa [List.filterMap_cons] using ih
  | @input pieces word _ _ _ _ first _ =>
    have none : pieces.filterMap Piece.input? = [] := by
      rw [List.filterMap_eq_nil_iff]
      intro p hp
      cases p with
      | input other => exact absurd hp (first other)
      | switch | assignment => rfl
    simp [none]

end

/-- How words are decided: by the first one that is wrong, and if none is, by what is missing. -/
structure Decided (words : List String) : Prop where
  /-- A refused argument or value is the failure, whatever follows. -/
  refused_stays : ∀ e, ofWords words = .error e →
    (∃ word, e = .argumentRefused word) ∨ (∃ flag value, e = .valueRefused flag value) →
    ∀ more, ofWords (words ++ more) = .error e
  argumentRefused : ∀ word, ofWords words = .error (.argumentRefused word) ↔
    ∃ pieces rest, Accepted pieces ∧ words = pieces.flatMap Piece.words ++ word :: rest ∧
      word ∉ Switch.words ∧ word ∉ Flag.words ∧
      (['-', '-'] <+: word.toList ∨ GivesInput pieces)
  valueRefused : ∀ flag value, ofWords words = .error (.valueRefused flag value) ↔
    ∃ pieces rest, Accepted pieces ∧ words = pieces.flatMap Piece.words ++ flag :: value :: rest ∧
      flag ∈ Flag.words ∧ ¬ Takes flag value
  /-- The last word is a flag that has no value and is none. -/
  flagWithoutValue : ∀ flag, ofWords words = .error (.flagWithoutValue flag) ↔
    ∃ pieces, Accepted pieces ∧ words = pieces.flatMap Piece.words ++ [flag] ∧ flag ∈ Flag.words
  noInput : ofWords words = .error .noInput ↔
    ∃ pieces, CutInto words pieces ∧ ¬ AsksForHelp pieces ∧ ¬ GivesInput pieces
  noOutputPath : ofWords words = .error .noOutputPath ↔
    ∃ pieces, CutInto words pieces ∧ ¬ AsksForHelp pieces ∧ GivesInput pieces ∧
      AsksForGlb pieces ∧ ¬ GivesOutputPath pieces
  ok : ∀ a, ofWords words = .ok a ↔
    ∃ pieces, CutInto words pieces ∧ Complete pieces ∧ a = amount pieces ∧
      (pieces.filterMap Piece.input?).length ≤ 1
  /-- There are no other failures, so that in all other cases the words are read. -/
  failures : ∀ e, ofWords words = .error e →
    (∃ word, e = .argumentRefused word) ∨ (∃ flag value, e = .valueRefused flag value) ∨
      (∃ flag, e = .flagWithoutValue flag) ∨ e = .noInput ∨ e = .noOutputPath

/-- Every command line is decided from left to right: the first argument that is in error is the
    failure, and if none is, the arguments are read or it is known what they lack. -/
theorem decided_ofWords (words : List String) : Decided words where
  refused_stays e refused kind more := ofWords_append refused kind more
  argumentRefused word := ofWords_eq_argumentRefused_iff
  valueRefused flag value := ofWords_eq_valueRefused_iff
  flagWithoutValue flag := ofWords_eq_flagWithoutValue_iff
  noInput := ofWords_eq_noInput_iff
  noOutputPath := ofWords_eq_noOutputPath_iff
  ok a := by
    rw [ofWords_eq_ok_iff]
    constructor
    · rintro ⟨pieces, cut, complete, same⟩
      exact ⟨pieces, cut, complete, same, cut.accepted.length_inputs_le⟩
    · rintro ⟨pieces, cut, complete, same, -⟩
      exact ⟨pieces, cut, complete, same⟩
  failures e failed := failure_cases failed

/-- A flag that is a value is none, a second value takes the place of the first, and of two wrong
    arguments the first counts. -/
example : ofWords ["--out", "--seed", "-", "--seed", "1", "--format", "GLB", "--seed", "+2"] =
      .ok { input := some .standardInput, format := .glb, out := some ⟨"--seed"⟩, seed := some 2 } ∧
    ofWords ["a", "b", "--seed"] = .error (.argumentRefused "b") := by
  decide +kernel

end Arguments

end LayeredScene
