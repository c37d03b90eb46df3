import LayeredScene.Object.OfLines
import LayeredScene.Proofs.Positions
import LayeredScene.Proofs.Source.Blocks
import LayeredScene.Proofs.Source.Lines

/-! # Source texts that follow each other

If a source text goes on with a line feed and another source text, then its lines stay as they are
and those of the other are further down.  The blocks of both stay apart if the last block of the
first cannot take the first line of the second; this is all that the splitter carries across, as
`splitFrom_append` shows.
-/

namespace LayeredScene

open Text (lineFeeds)

/-! ## Lines -/

namespace NumberedLine

/-- The line some lines further down. -/
def movedDown (count : Nat) (l : NumberedLine) : NumberedLine :=
  { l with number := l.number + count }

theorem numbered_append (first : Nat) (texts texts' : List String) :
    numbered first (texts ++ texts') =
      numbered first texts ++ numbered (first + texts.length) texts' := by
  simp only [numbered_eq_map]
  exact map_zipIdx_append _ texts texts' first

theorem numbered_movedDown (first count : Nat) (texts : List String) :
    numbered (first + count) texts = (numbered first texts).map (movedDown count) := by
  induction texts generalizing first with
  | nil => rfl
  | cons t texts ih =>
    rw [numbered, numbered, List.map_cons, Nat.add_right_comm, ih]
    rfl

/-- A line feed at the end of a source text adds no line that counts. -/
theorem ofSource_append_lineFeed (source : String) :
    ofSource (source ++ "\n") = ofSource source := by
  rw [ofSource, ofSource]
  rcases Text.lines_append_lineFeed_cases source with blank | ⟨front, last, openEnd, closed⟩
  · rw [blank, numbered_append, List.filter_append]
    have skipped : (numbered (1 + (Text.lines source).length) [""]).filter counts = [] := rfl
    rw [skipped, List.append_nil]
  · rw [openEnd, closed, numbered_append, numbered_append, numbered, numbered, Text.trim_dropReturn]
    rfl

theorem ofSource_append (a b : String) :
    ofSource (a ++ "\n" ++ b) = ofSource a ++ (ofSource b).map (movedDown (lineFeeds a + 1)) := by
  have first := ofSource_append_lineFeed a
  -- Moving a line down does not change whether it counts.
  have second : ((numbered 1 (Text.lines b)).map (movedDown (lineFeeds a + 1))).filter counts =
      (ofSource b).map (movedDown (lineFeeds a + 1)) := by
    rw [List.filter_map]
    rfl
  rw [ofSource] at first
  rw [ofSource, Text.lines_append, numbered_append, List.filter_append,
    Text.length_lines_append_lineFeed, numbered_movedDown, first, second]

end NumberedLine

/-! ## Blocks -/

namespace Block

variable {b last : Block} {ls : List NumberedLine}

/-- Of the blocks of some lines only the last goes on with the lines that follow. -/
theorem splitFrom_append {front : List Block} (h : splitFrom b ls = front ++ [last])
    (ls' : List NumberedLine) : splitFrom b (ls ++ ls') = front ++ splitFrom last ls' := by
  induction ls generalizing b front with
  | nil =>
    have one : [] ++ [b] = front ++ [last] := h
    obtain ⟨rfl, rfl⟩ := List.append_singleton_inj.mp one
    rfl
  | cons l ls ih =>
    simp only [splitFrom, List.cons_append] at h ⊢
    split at h
    · next longer taken => exact ih h
    · next refused =>
      cases front with
      | nil =>
        -- There is a block behind the one that is finished, so that this one is not the last.
        have lines := congrArg (List.flatMap (·.lines)) (List.tail_eq_of_cons_eq h)
        rw [flatMap_lines_splitFrom] at lines
        cases lines
      | cons finished front =>
        obtain ⟨rfl, rest⟩ := List.cons.inj h
        rw [ih rest, List.cons_append]

/-- Lines of which the first cannot join the blocks before make up blocks of their own. -/
theorem split_append {first : NumberedLine} {ls' : List NumberedLine}
    (hlast : (split ls).getLast? = some last) (hfirst : ls'.head? = some first)
    (refused : last.take? first = none) : split (ls ++ ls') = split ls ++ split ls' := by
  obtain ⟨front, blocks⟩ := List.getLast?_eq_some_iff.mp hlast
  cases ls with
  | nil => cases hlast
  | cons l ls =>
    cases ls' with
    | nil => cases hfirst
    | cons l' ls' =>
      obtain rfl := Option.some.inj hfirst
      have joined := splitFrom_append blocks (l' :: ls')
      simp only [splitFrom, refused] at joined
      rw [blocks, List.append_assoc]
      exact joined

end Block

end LayeredScene
