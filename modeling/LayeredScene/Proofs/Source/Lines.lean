import LayeredScene.Source.Line
import LayeredScene.Proofs.Text.Lines

/-! # The lines of a source text and what they say

The lines that count are numbered in order, and each of them carries the trimmed text of the line
with its number.  Whether a line holds a statement is decided by its separators alone: a text has
one segment more than it has separators, and three segments make a statement.
-/

namespace LayeredScene

/-! ## Numbers -/

namespace NumberedLine

theorem numbered_eq_map (first : Nat) (texts : List String) :
    numbered first texts = (texts.zipIdx first).map fun (t, k) => ⟨k, Text.trim t⟩ := by
  induction texts generalizing first with
  | nil => rfl
  | cons t texts ih => simp [numbered, ih]

theorem pairwise_number_ofSource (source : String) :
    (ofSource source).Pairwise (·.number < ·.number) := by
  refine List.Pairwise.filter _ ?_
  rw [numbered_eq_map, List.pairwise_map]
  have numbers : ((Text.lines source).zipIdx 1).map Prod.snd =
      List.range' 1 (Text.lines source).length := List.zipIdx_map_snd ..
  have increasing := List.pairwise_lt_range' (s := 1) (n := (Text.lines source).length)
  rw [← numbers, List.pairwise_map] at increasing
  exact increasing

/-- A line that counts has the number and the trimmed text of a line of the source. -/
theorem getElem?_of_mem_ofSource {source : String} {l : NumberedLine} (h : l ∈ ofSource source) :
    1 ≤ l.number ∧ (Text.lines source)[l.number - 1]?.map Text.trim = some l.text := by
  have numbered := (List.mem_filter.1 h).1
  rw [numbered_eq_map, List.mem_map] at numbered
  obtain ⟨⟨t, k⟩, member, rfl⟩ := numbered
  obtain ⟨first, text⟩ := List.mk_mem_zipIdx_iff_le_and_getElem?_sub.1 member
  exact ⟨first, by simp [text]⟩

end NumberedLine

/-! ## Separators -/

/-- The number of separators in a text. -/
def separators (text : String) : Nat :=
  text.toList.count separator

theorem length_segments (text : String) : (segments text).length = separators text + 1 := by
  simp [segments, Text.split, Text.length_pieces, separators, List.count]

/-- Two separators make three segments, and perhaps more. -/
theorem exists_segments {text : String} (h : 2 ≤ separators text) :
    ∃ objectType layer commands rest, segments text = objectType :: layer :: commands :: rest := by
  have length := length_segments text
  match parts : segments text with
  | [] | [_] | [_, _] =>
    simp only [parts, List.length_cons, List.length_nil] at length
    omega
  | objectType :: layer :: commands :: rest => exact ⟨objectType, layer, commands, rest, rfl⟩

/-- Two separators make a statement. -/
theorem ofLine_of_two_le {text : String} (h : 2 ≤ separators text) :
    ∃ s, Statement.ofLine text = .ok s := by
  obtain ⟨objectType, layer, commands, rest, parts⟩ := exists_segments h
  rw [Statement.ofLine, parts]
  exact ⟨_, rfl⟩

theorem ofLine_of_lt_two {text : String} (h : separators text < 2) :
    Statement.ofLine text = .error ⟨separators text + 1⟩ := by
  have length := length_segments text
  unfold Statement.ofLine
  split
  · next parts =>
    simp only [parts, List.length_cons] at length
    omega
  · rw [length]

end LayeredScene
