import LayeredScene.Proofs.Source.Blocks
import LayeredScene.Proofs.Source.BlockTypes
import LayeredScene.Proofs.Source.Lines
import LayeredScene.Proofs.Text.KeptLines

/-! # Lines without a separator

A line without a separator never starts a block behind another one and never ends one, and so the
blocks of the lines with a separator are the blocks of all lines, less the lines without one.  The
splitter makes no step on such a line that the lines with a separator could notice, as
`splitFrom_filter_isKeyed` shows.  Only a source of which no line has a separator is different: it
has one block, and there is none when its lines are gone.
-/

namespace LayeredScene

/-! ## Lines -/

/-- The source text less its lines without a separator. -/
def withoutKeyless (source : String) : String :=
  Text.keepLines (·.contains separator) source

namespace NumberedLine

def isKeyed (l : NumberedLine) : Bool :=
  l.text.toList.contains separator

/-- The line without its number. -/
def unnumbered (l : NumberedLine) : NumberedLine :=
  { l with number := 0 }

theorem isKeyed_iff {l : NumberedLine} : l.isKeyed ↔ l.leadingType?.isSome := by
  have length := length_segments l.text
  rw [isKeyed, List.contains_iff_mem, ← List.count_pos_iff, ← separators, leadingType?]
  -- One separator makes two segments.
  cases parts : segments l.text with
  | nil => simp [parts] at length
  | cons first rest =>
    cases rest with
    | nil => simp_all
    | cons second rest =>
      simp only [parts, List.length_cons] at length
      simp only [Option.isSome_some, iff_true]
      omega

theorem leadingType?_of_keyless {l : NumberedLine} (h : l.isKeyed = false) :
    l.leadingType? = none := by
  have keyless := isKeyed_iff (l := l)
  simpa [h] using keyless

theorem exists_leadingType {l : NumberedLine} (h : l.isKeyed) :
    ∃ objectType, l.leadingType? = some objectType :=
  Option.isSome_iff_exists.mp (isKeyed_iff.mp h)

theorem map_unnumbered_numbered (first : Nat) (texts : List String) :
    (numbered first texts).map unnumbered = texts.map fun t => ⟨0, Text.trim t⟩ := by
  induction texts generalizing first with
  | nil => rfl
  | cons t texts ih => simp [numbered, unnumbered, ih]

theorem ofSource_withoutKeyless (source : String) :
    (ofSource (withoutKeyless source)).map unnumbered =
      ((ofSource source).filter isKeyed).map unnumbered := by
  have lines : Text.lines (withoutKeyless source) =
      (Text.lines source).filter fun t => t.toList.contains separator := by
    apply Text.lines_keepLines rfl
    intro cs
    rw [Bool.eq_iff_iff, List.contains_iff_mem, List.contains_iff_mem]
    exact Text.mem_dropReturn_iff (by decide) cs
  have trimmed (t : String) : (⟨0, Text.trim t⟩ : NumberedLine).isKeyed =
      t.toList.contains separator := by
    rw [isKeyed, Bool.eq_iff_iff, List.contains_iff_mem, List.contains_iff_mem]
    exact Text.mem_trim_iff (by decide) t
  -- Whether a line counts and whether it has a separator is in its text alone.
  have filtered (p : NumberedLine → Bool) (same : ∀ l, p l.unnumbered = p l)
      (ls : List NumberedLine) :
      (ls.filter p).map unnumbered = (ls.map unnumbered).filter p := by
    rw [List.filter_map]
    exact congrArg (List.map _) (List.filter_congr fun l _ => (same l).symm)
  rw [ofSource, ofSource, filtered _ fun _ => rfl, filtered _ fun _ => rfl,
    filtered _ fun _ => rfl, map_unnumbered_numbered, map_unnumbered_numbered, lines,
    List.filter_comm, List.filter_map (p := isKeyed)]
  simp only [Function.comp_def, trimmed]

example : withoutKeyless "stray\nA > b > cube\n\r\nA > b\r\nend" = "A > b > cube\nA > b\r\n" := by
  decide +kernel

end NumberedLine

/-! ## Blocks -/

namespace Block

/-- The block less its lines without a separator. -/
def keyedPart (b : Block) : Block :=
  { b with lines := b.lines.filter NumberedLine.isKeyed }

theorem start_keyedPart {l : NumberedLine} (keyed : l.isKeyed) :
    (start l).keyedPart = start l := by
  simp [keyedPart, start, keyed]

/-- A line with a separator sees no more of a block than its keyed part. -/
theorem take?_keyedPart {l : NumberedLine} (keyed : l.isKeyed) (b : Block) :
    b.keyedPart.take? l = (b.take? l).map keyedPart := by
  obtain ⟨objectType, leads⟩ := NumberedLine.exists_leadingType keyed
  rw [take?_of_keyed leads, take?_of_keyed leads]
  by_cases belongs : b.objectType = objectType ∨ b.objectType = "" <;>
    simp [keyedPart, belongs, keyed]

/-- The splitter makes the same steps with and without the lines that have no separator. -/
theorem splitFrom_filter_isKeyed (b : Block) (ls : List NumberedLine) :
    splitFrom b.keyedPart (ls.filter NumberedLine.isKeyed) = (splitFrom b ls).map keyedPart := by
  induction ls generalizing b with
  | nil => rfl
  | cons l ls ih =>
    cases keyed : l.isKeyed with
    | false =>
      -- The line joins the unfinished block and is no line of its keyed part.
      have joins := take?_of_keyless (b := b) (NumberedLine.leadingType?_of_keyless keyed)
      rw [List.filter_cons_of_neg (by simp [keyed]), splitFrom, joins, ← ih]
      simp [keyedPart, keyed]
    | true =>
      rw [List.filter_cons_of_pos keyed, splitFrom, splitFrom, take?_keyedPart keyed]
      cases b.take? l with
      | some longer => exact ih longer
      | none =>
        rw [List.map_cons, ← ih, start_keyedPart keyed]
        rfl

/-- A block without lines and without a type takes any line as its first. -/
theorem splitFrom_untyped_nil (ls : List NumberedLine) (keyed : ∀ l ∈ ls, l.isKeyed) :
    splitFrom ⟨"", []⟩ ls = if ls = [] then [⟨"", []⟩] else split ls := by
  cases ls with
  | nil => rfl
  | cons l ls =>
    obtain ⟨objectType, leads⟩ := NumberedLine.exists_leadingType (keyed l List.mem_cons_self)
    rw [if_neg (List.cons_ne_nil _ _), splitFrom, take?_of_keyed leads]
    simp [split, start, leads]

/-- The blocks of the lines with a separator are those of all lines, less the others; if there are
    none, a block that had only others has no lines left. -/
theorem split_filter_isKeyed (ls : List NumberedLine) :
    (split ls).map keyedPart = split (ls.filter NumberedLine.isKeyed) ∨
    (split ls).map keyedPart = [⟨"", []⟩] ∧ split (ls.filter NumberedLine.isKeyed) = [] := by
  cases ls with
  | nil => exact .inl rfl
  | cons l ls =>
    rw [split, ← splitFrom_filter_isKeyed]
    cases keyed : l.isKeyed with
    | false =>
      have untyped : (start l).keyedPart = ⟨"", []⟩ := by
        simp [keyedPart, start, keyed, NumberedLine.leadingType?_of_keyless keyed]
      rw [List.filter_cons_of_neg (by simp [keyed]), untyped,
        splitFrom_untyped_nil _ fun l hl => (List.mem_filter.mp hl).2]
      split
      · next none => exact .inr ⟨rfl, none ▸ rfl⟩
      · exact .inl rfl
    | true =>
      rw [List.filter_cons_of_pos keyed, start_keyedPart keyed]
      exact .inl rfl

end Block

end LayeredScene
