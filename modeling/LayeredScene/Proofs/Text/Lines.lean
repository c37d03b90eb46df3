import LayeredScene.Text.Blank

/-! # The lines of texts that follow each other

A character that separates pieces cuts a text into two texts whose pieces do not depend on each
other.  For lines this means that a text that ends with a line feed can be followed by anything:
`lines_append` says that the lines of both are those of the one and then those of the other.
-/

namespace LayeredScene.Text

/-! ## Pieces -/

theorem pieces_cons (p : Char → Bool) (c : Char) (cs : List Char) :
    pieces p (c :: cs) =
      if p c then [] :: pieces p cs
      else match pieces p cs with
        | [] => [[c]]
        | q :: qs => (c :: q) :: qs := rfl

theorem length_pieces (sep : Char → Bool) (cs : List Char) :
    (pieces sep cs).length = cs.countP sep + 1 := by
  induction cs with
  | nil => rfl
  | cons c cs ih =>
    rw [pieces_cons]
    by_cases h : sep c
    · simp [h, ih]
    · simp only [h, Bool.false_eq_true, if_false, List.countP_cons, Nat.add_zero]
      -- There is always a piece that the character can join.
      split
      · next none => simp [none] at ih
      · next p ps some => simpa [some] using ih

theorem pieces_ne_nil (sep : Char → Bool) (cs : List Char) : pieces sep cs ≠ [] := by
  intro none
  have length := length_pieces sep cs
  simp [none] at length

/-- A separator ends a piece, whatever stands before and behind it. -/
theorem pieces_append_cons {sep : Char → Bool} {c : Char} (h : sep c) (before after : List Char) :
    pieces sep (before ++ c :: after) = pieces sep before ++ pieces sep after := by
  induction before with
  | nil => simp [h, pieces]
  | cons d before ih =>
    rw [List.cons_append, pieces_cons, pieces_cons, ih]
    by_cases ends : sep d
    · simp [ends]
    -- The first piece is that of what stands before the separator.
    · simp only [ends, Bool.false_eq_true, if_false]
      cases first : pieces sep before with
      | nil => exact absurd first (pieces_ne_nil sep before)
      | cons p ps => simp

/-! ## Lines -/

/-- The number of line feeds in a text. -/
def lineFeeds (s : String) : Nat :=
  s.toList.count '\n'

/-- The lines of a text that goes on with a line feed: then all its pieces are lines. -/
theorem lines_append_lineFeed (s : String) :
    lines (s ++ "\n") = ((pieces (· == '\n') s.toList).map dropReturn).map String.ofList := by
  have cut : pieces (· == '\n') (s ++ "\n").toList = pieces (· == '\n') s.toList ++ [[]] := by
    rw [String.toList_append]
    exact pieces_append_cons rfl s.toList []
  rw [lines, cut]
  simp

theorem length_lines_append_lineFeed (s : String) :
    (lines (s ++ "\n")).length = lineFeeds s + 1 := by
  rw [lines_append_lineFeed, List.length_map, List.length_map, length_pieces]
  rfl

theorem lines_append (a b : String) : lines (a ++ "\n" ++ b) = lines (a ++ "\n") ++ lines b := by
  have cut : pieces (· == '\n') (a ++ "\n" ++ b).toList =
      pieces (· == '\n') a.toList ++ pieces (· == '\n') b.toList := by
    rw [String.toList_append, String.toList_append, List.append_assoc]
    exact pieces_append_cons rfl a.toList b.toList
  have some := pieces_ne_nil (· == '\n') b.toList
  -- The last piece, which may be no line, is that of the second text.
  have last : (pieces (· == '\n') a.toList ++ pieces (· == '\n') b.toList).getLast? =
      (pieces (· == '\n') b.toList).getLast? := by
    rw [List.getLast?_append, Option.or_of_isSome (List.getLast?_isSome.mpr some)]
  rw [lines_append_lineFeed, lines, cut, lines, last, List.dropLast_append_of_ne_nil some]
  simp

/-- A last line feed only ends the last line, and a blank line begins behind it unless there is
    text. -/
theorem lines_append_lineFeed_cases (s : String) :
    lines (s ++ "\n") = lines s ++ [""] ∨
    ∃ front last, lines s = front ++ [String.ofList last] ∧
      lines (s ++ "\n") = front ++ [String.ofList (dropReturn last)] := by
  obtain none | ⟨front, last, split⟩ := List.eq_nil_or_concat (pieces (· == '\n') s.toList)
  · exact absurd none (pieces_ne_nil _ _)
  rw [lines_append_lineFeed, lines, split, List.concat_eq_append, List.dropLast_concat,
    List.getLast?_concat]
  cases last with
  | nil => exact Or.inl (by simp [dropReturn])
  | cons c cs =>
    refine Or.inr ⟨(front.map dropReturn).map String.ofList, c :: cs, ?_, ?_⟩
    · rw [List.map_append]
      rfl
    · rw [List.map_append, List.map_append]
      rfl

/-! ## Blank space at the end of a line -/

theorem trimChars_append_blank {c : Char} (blank : isBlank c) (cs : List Char) :
    trimChars (cs ++ [c]) = trimChars cs := by
  rw [trimChars, List.dropWhile_append]
  split
  · next none =>
    -- There was nothing but blank space before it.
    rw [List.isEmpty_iff] at none
    simp [trimChars, none, blank]
  · rw [List.reverse_append, List.reverse_singleton, List.singleton_append,
      List.dropWhile_cons_of_pos blank, trimChars]

/-- Whether a carriage return belongs to the line or to its end makes no difference to what is left
    of the line. -/
theorem trim_dropReturn (cs : List Char) :
    trim (String.ofList (dropReturn cs)) = trim (String.ofList cs) := by
  rw [dropReturn]
  split
  · next last =>
    obtain ⟨init, rfl⟩ := List.getLast?_eq_some_iff.mp last
    rw [List.dropLast_concat, trim, trim, String.toList_ofList, String.toList_ofList,
      trimChars_append_blank (by decide)]
  · rfl

end LayeredScene.Text
