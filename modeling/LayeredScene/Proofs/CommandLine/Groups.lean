import LayeredScene.CommandLine.Arguments
import LayeredScene.Proofs.Text.Separators
import Mathlib.Data.List.Nodup

/-! # Arguments in any order

The arguments that set one field are a group: a switch, a flag with its value, or the input.  The
scan takes a group as a whole (`scan_group`), because the word behind a flag is never looked at for
what it could be on its own.  Groups for different fields do not get in each other's way, and so it
makes no difference in which order they stand (`ofWords_groups`).
-/

namespace LayeredScene

namespace Arguments

inductive Field where
  | input | format | out | settings | seed | sequential | compact | help
deriving DecidableEq

def Field.all : List Field := [input, format, out, settings, seed, sequential, compact, help]

/-- The arguments that set a field.  The name of a format and the word that asks for help can be
    chosen. -/
inductive Group where
  | input (i : Input)
  | format (f : OutputFormat) (name : String)
  | out (p : Path)
  | settings (p : Path)
  | seed (n : UInt64)
  | sequential
  | compact
  | help (word : String)
deriving DecidableEq

namespace Group

def words : Group → List String
  | .input .standardInput => ["-"]
  | .input (.file p) => [p.text]
  | .format _ name => ["--format", name]
  | .out p => ["--out", p.text]
  | .settings p => ["--settings", p.text]
  | .seed n => ["--seed", toString n.toNat]
  | .sequential => ["--sequential"]
  | .compact => ["--compact"]
  | .help word => [word]

def field : Group → Field
  | .input _ => .input
  | .format _ _ => .format
  | .out _ => .out
  | .settings _ => .settings
  | .seed _ => .seed
  | .sequential => .sequential
  | .compact => .compact
  | .help _ => .help

def apply (a : Arguments) : Group → Arguments
  | .input i => { a with input := some i }
  | .format f _ => { a with format := f }
  | .out p => { a with out := some p }
  | .settings p => { a with settings := some p }
  | .seed n => { a with seed := some n }
  | .sequential => { a with sequential := true }
  | .compact => { a with compact := true }
  | .help _ => { a with help := true }

/-- A format goes by its name, in whatever case its letters are, help by one of its two words, and
    a file by a path that no other argument looks like. -/
def Spelled : Group → Prop
  | .format f name => Text.lowerAscii name = f.name
  | .help word => word = "--help" ∨ word = "-h"
  | .input (.file p) => p.text ≠ "-" ∧ p.text ≠ "-h" ∧ ¬ ['-', '-'] <+: p.text.toList
  | _ => True

/-! ## One group -/

theorem ofName?_of_lowerAscii {f : OutputFormat} {name : String}
    (h : Text.lowerAscii name = f.name) : OutputFormat.ofName? name = some f := by
  rw [OutputFormat.ofName?, h]
  cases f <;> decide

theorem scan_switch (a : Arguments) (switch : Switch) {word : String}
    (known : Switch.ofWord? word = some switch) (rest : List String) :
    scan a (word :: rest) = scan (a.turnOn switch) rest := by
  rw [scan, known]

theorem scan_flag {a a' : Arguments} {word value : String} {flag : Flag}
    (noSwitch : Switch.ofWord? word = none) (known : Flag.ofWord? word = some flag)
    (assigned : a.assign? flag value = some a') (rest : List String) :
    scan a (word :: value :: rest) = scan a' rest := by
  simp only [scan, noSwitch, known, assigned]

theorem scan_input {a a' : Arguments} {word : String} (noSwitch : Switch.ofWord? word = none)
    (noFlag : Flag.ofWord? word = none) (fed : a.feed? word = some a') (rest : List String) :
    scan a (word :: rest) = scan a' rest := by
  simp only [scan, noSwitch, noFlag, fed]

theorem feed?_of_plain {a : Arguments} {word : String} (new : a.input = none)
    (plain : ¬ ['-', '-'] <+: word.toList) :
    a.feed? word =
      some { a with input := some (if word = "-" then .standardInput else .file ⟨word⟩) } := by
  have plain : looksLikeFlag word = false := by
    rw [looksLikeFlag, ← Bool.not_eq_true, List.isPrefixOf_iff_prefix]
    exact plain
  rw [feed?, new, plain, Option.isSome_none, Bool.false_or, if_neg Bool.false_ne_true]

/-- A word without two dashes in front is no flag, and no switch either, but for the one with one
    dash. -/
theorem ofWord?_of_plain {word : String} (plain : ¬ ['-', '-'] <+: word.toList)
    (other : word ≠ "-h") :
    Switch.ofWord? word = none ∧ Flag.ofWord? word = none := by
  have no {flag : String} (dashes : ['-', '-'] <+: flag.toList) : word ≠ flag := by
    rintro rfl
    exact plain dashes
  constructor
  · unfold Switch.ofWord?
    split
    · exact absurd rfl (no (by decide))
    · exact absurd rfl other
    · exact absurd rfl (no (by decide))
    · exact absurd rfl (no (by decide))
    · rfl
  · unfold Flag.ofWord?
    split
    iterate 4
      · exact absurd rfl (no (by decide))
    · rfl

/-- The scan takes a group as a whole, wherever it stands.  Only an input has to be the first. -/
theorem scan_group {a : Arguments} {g : Group} (spelled : g.Spelled)
    (first : g.field = .input → a.input = none) (rest : List String) :
    scan a (g.words ++ rest) = scan (g.apply a) rest := by
  cases g with
  | input i =>
    have new := first rfl
    cases i with
    | standardInput =>
      have plain : ¬ ['-', '-'] <+: "-".toList := by decide
      exact scan_input rfl rfl (feed?_of_plain new plain) rest
    | file p =>
      obtain ⟨noDash, noHelp, plain⟩ := spelled
      obtain ⟨noSwitch, noFlag⟩ := ofWord?_of_plain plain noHelp
      have fed := feed?_of_plain new plain
      rw [if_neg noDash] at fed
      exact scan_input noSwitch noFlag fed rest
  | format f name =>
    refine scan_flag rfl rfl ?_ rest
    rw [assign?, ofName?_of_lowerAscii spelled, Option.map_some]
    rfl
  | out p => exact scan_flag rfl rfl rfl rest
  | settings p => exact scan_flag rfl rfl rfl rest
  | seed n =>
    refine scan_flag rfl rfl ?_ rest
    rw [assign?, wholeNumber?_toString n.toNat_lt, Option.map_some, UInt64.ofNat_toNat]
    rfl
  | sequential => exact scan_switch a .sequential rfl rest
  | compact => exact scan_switch a .compact rfl rest
  | help word =>
    rcases spelled with rfl | rfl
    · exact scan_switch a .help rfl rest
    · exact scan_switch a .help rfl rest

/-! ## Many groups -/

theorem input_apply {g : Group} (other : g.field ≠ .input) (a : Arguments) :
    (g.apply a).input = a.input := by
  cases g with
  | input => exact absurd rfl other
  | format | out | settings | seed | sequential | compact | help => rfl

/-- Groups for different fields can be applied in either order. -/
theorem apply_comm {g h : Group} (apart : g.field ≠ h.field) (a : Arguments) :
    h.apply (g.apply a) = g.apply (h.apply a) := by
  cases g <;> cases h <;> first | rfl | exact absurd rfl apart

/-- The scan takes groups for different fields one after the other. -/
theorem scan_groups {a : Arguments} {gs : List Group} (spelled : ∀ g ∈ gs, g.Spelled)
    (apart : (gs.map field).Nodup) (first : .input ∈ gs.map field → a.input = none) :
    scan a (gs.flatMap words) = .ok (gs.foldl apply a) := by
  induction gs generalizing a with
  | nil => rfl
  | cons g gs ih =>
    rw [List.forall_mem_cons] at spelled
    rw [List.map_cons, List.nodup_cons] at apart
    have one := scan_group spelled.1 fun input => first (List.mem_map.mpr ⟨g, .head _, input⟩)
    rw [List.flatMap_cons, List.foldl_cons, one]
    refine ih spelled.2 apart.2 fun later => ?_
    -- An input that is still to come is for the same field, so that this group is for another.
    rw [input_apply (fun input => apart.1 (input ▸ later))]
    exact first (List.mem_cons_of_mem _ later)

/-- What groups for different fields amount to does not depend on their order. -/
theorem foldl_apply_perm {gs gs' : List Group} (perm : gs.Perm gs') (apart : (gs.map field).Nodup)
    (a : Arguments) : gs.foldl apply a = gs'.foldl apply a := by
  refine perm.foldl_eq' (fun g hg h hh a => ?_) a
  by_cases same : g.field = h.field
  · rw [List.inj_on_of_nodup_map apart hg hh same]
  · exact apply_comm same a

end Group

/-! ## The groups of some arguments -/

/-- The group for a field, if the field is set.  JSON is the format of arguments that name none. -/
def group? (a : Arguments) (name? : Option String) (helpWord : String) : Field → Option Group
  | .input => a.input.map .input
  | .format => name?.map (.format a.format)
  | .out => a.out.map .out
  | .settings => a.settings.map .settings
  | .seed => a.seed.map .seed
  | .sequential => if a.sequential then some .sequential else none
  | .compact => if a.compact then some .compact else none
  | .help => if a.help then some (.help helpWord) else none

def groups (a : Arguments) (name? : Option String) (helpWord : String) : List Group :=
  Field.all.filterMap (a.group? name? helpWord)

section

variable {a : Arguments} {name? : Option String} {helpWord : String}

theorem field_of_group? {field : Field} {g : Group} (h : a.group? name? helpWord field = some g) :
    g.field = field := by
  cases field with
  | input | format | out | settings | seed =>
    obtain ⟨_, -, rfl⟩ := Option.map_eq_some_iff.mp h
    rfl
  | sequential | compact | help =>
    obtain ⟨-, same⟩ := Option.ite_none_right_eq_some.mp h
    cases same
    rfl

theorem nodup_fields (a : Arguments) (name? : Option String) (helpWord : String) :
    ((a.groups name? helpWord).map Group.field).Nodup := by
  have distinct : Field.all.Nodup := by decide
  rw [groups, List.map_filterMap]
  refine List.Nodup.filterMap (fun f f' field hf hf' => ?_) distinct
  obtain ⟨g, hg, rfl⟩ := Option.map_eq_some_iff.mp hf
  obtain ⟨g', hg', same⟩ := Option.map_eq_some_iff.mp hf'
  rw [← field_of_group? hg, ← field_of_group? hg', same]

/-- The groups set every field to what it is. -/
theorem foldl_groups (implied : name? = none → a.format = .json) :
    (a.groups name? helpWord).foldl Group.apply {} = a := by
  obtain ⟨input, format, out, seed, settings, sequential, compact, help⟩ := a
  simp only [groups, Field.all, List.foldl_filterMap, List.foldl_cons, List.foldl_nil, group?]
  -- A field without a group keeps the value that arguments have from the start.
  cases name? with
  | none =>
    obtain rfl : format = .json := implied rfl
    cases input <;> cases out <;> cases settings <;> cases seed <;> cases sequential <;>
      cases compact <;> cases help <;> rfl
  | some name =>
    cases input <;> cases out <;> cases settings <;> cases seed <;> cases sequential <;>
      cases compact <;> cases help <;> rfl

theorem spelled_of_mem_groups (named : ∀ name ∈ name?, Text.lowerAscii name = a.format.name)
    (asks : helpWord = "--help" ∨ helpWord = "-h")
    (file : ∀ p, a.input = some (.file p) →
      p.text ≠ "-" ∧ p.text ≠ "-h" ∧ ¬ ['-', '-'] <+: p.text.toList)
    {g : Group} (hg : g ∈ a.groups name? helpWord) : g.Spelled := by
  obtain ⟨field, -, hg⟩ := List.mem_filterMap.mp hg
  cases field with
  | input =>
    obtain ⟨i, input, rfl⟩ := Option.map_eq_some_iff.mp hg
    cases i with
    | standardInput => trivial
    | file p => exact file p input
  | format =>
    obtain ⟨name, chosen, rfl⟩ := Option.map_eq_some_iff.mp hg
    exact named name chosen
  | out | settings | seed =>
    obtain ⟨_, -, rfl⟩ := Option.map_eq_some_iff.mp hg
    trivial
  | sequential | compact =>
    obtain ⟨-, same⟩ := Option.ite_none_right_eq_some.mp hg
    cases same
    trivial
  | help =>
    obtain ⟨-, same⟩ := Option.ite_none_right_eq_some.mp hg
    cases same
    exact asks

theorem check_of_complete
    (complete : a.help = true ∨ (a.input.isSome ∧ ¬(a.format = .glb ∧ a.out = none))) :
    a.check = .ok a := by
  unfold check
  cases complete with
  | inl help => rw [if_pos help]
  | inr complete =>
    obtain ⟨⟨i, input⟩, path⟩ := complete.imp_left Option.isSome_iff_exists.mp
    have path : ¬(a.format = .glb ∧ a.out.isNone) := by simpa using path
    rw [input, Option.isNone_some, if_neg Bool.false_ne_true, if_neg path, ite_self]

end

/-- Arguments are read back from their groups, in whatever order these stand: the format under its
    name in any case, the seed in decimal, and paths as they are, even where a path that is a value
    looks like a flag or like standard input.  The path of an input file must not look like another
    argument, and the arguments have to be complete, unless they ask for help. -/
theorem ofWords_groups (a : Arguments) (name? : Option String) (helpWord : String)
    (named : ∀ name ∈ name?, Text.lowerAscii name = a.format.name)
    (implied : name? = none → a.format = .json)
    (asks : helpWord = "--help" ∨ helpWord = "-h")
    (file : ∀ p, a.input = some (.file p) →
      p.text ≠ "-" ∧ p.text ≠ "-h" ∧ ¬ ['-', '-'] <+: p.text.toList)
    (complete : a.help = true ∨ (a.input.isSome ∧ ¬(a.format = .glb ∧ a.out = none)))
    (order : List Group) (perm : order.Perm (a.groups name? helpWord)) :
    ofWords (order.flatMap Group.words) = .ok a := by
  have distinct : (order.map Group.field).Nodup :=
    (perm.map Group.field).nodup_iff.mpr (nodup_fields a name? helpWord)
  have spelled : ∀ g ∈ order, g.Spelled := fun g hg =>
    spelled_of_mem_groups named asks file (perm.mem_iff.mp hg)
  have scanned : scan {} (order.flatMap Group.words) = .ok a := by
    rw [Group.scan_groups spelled distinct fun _ => rfl, Group.foldl_apply_perm perm distinct,
      foldl_groups implied]
  rw [ofWords, scanned]
  exact check_of_complete complete

/-- The paths behind `--out` and `--settings` look like a flag and like standard input, and the seed
    is the greatest. -/
theorem ofWords_groups_plan :
    ofWords ["--out", "--seed", "-h", "plan.gene", "--settings", "-", "--compact",
        "--format", "gLb", "--seed", "18446744073709551615"] =
      .ok { input := some (.file ⟨"plan.gene"⟩), format := .glb, out := some ⟨"--seed"⟩
            seed := some 18446744073709551615, settings := some ⟨"-"⟩, compact := true
            help := true } := by
  let order : List Group := [.out ⟨"--seed"⟩, .help "-h", .input (.file ⟨"plan.gene"⟩),
    .settings ⟨"-"⟩, .compact, .format .glb "gLb", .seed 18446744073709551615]
  have words : order.flatMap Group.words = ["--out", "--seed", "-h", "plan.gene", "--settings", "-",
      "--compact", "--format", "gLb", "--seed", "18446744073709551615"] := by decide +kernel
  rw [← words]
  refine ofWords_groups _ (some "gLb") "-h" ?_ nofun (.inr rfl) ?_ (.inl rfl) order ?_
  · rintro _ ⟨⟩
    decide
  · rintro p ⟨⟩
    decide
  · decide +kernel

end Arguments

end LayeredScene
