import LayeredScene.Proofs.Source.Lines
import LayeredScene.Proofs.Source.Blocks
import LayeredScene.Proofs.Statement.LetterCase
import LayeredScene.Object.OfLines

/-! # Source texts that differ only in letter case

Lowering the letters of a source text lowers those of its lines.  The lines that count and the
blocks stay the same, since a block goes by the upper case of a type, and so do the statements that
a block gives to its object and the lines that it drops.
-/

namespace LayeredScene

open Text (lowerAscii)

/-! ## Lines -/

namespace NumberedLine

def foldCase (l : NumberedLine) : NumberedLine :=
  { l with text := lowerAscii l.text }

theorem counts_foldCase (l : NumberedLine) : l.foldCase.counts = l.counts := by
  simp only [counts, foldCase, Text.toList_lowerAscii]
  cases l.text.toList with
  | nil => rfl
  | cons c cs =>
    exact congrArg not (Text.beq_toLower (by decide : '#'.isAlpha = false) c)

theorem numbered_lowerAscii (first : Nat) (lines : List String) :
    numbered first (lines.map lowerAscii) = (numbered first lines).map foldCase := by
  simp [numbered_eq_map, List.zipIdx_map, foldCase, Text.trim_lowerAscii]

theorem ofSource_lowerAscii (source : String) :
    ofSource (lowerAscii source) = (ofSource source).map foldCase := by
  rw [ofSource, Text.lines_lowerAscii, numbered_lowerAscii, List.filter_map, ofSource,
    show counts ∘ foldCase = counts from funext counts_foldCase]

theorem leadingType?_foldCase (l : NumberedLine) : l.foldCase.leadingType? = l.leadingType? := by
  simp only [leadingType?, foldCase, segments_lowerAscii]
  match segments l.text with
  | [] | [_] => rfl
  | objectType :: _ :: _ => exact congrArg some (Text.upper_lowerAscii objectType)

theorem statement?_foldCase (l : NumberedLine) :
    l.foldCase.statement? = l.statement?.map Statement.foldCase := by
  rw [statement?, foldCase, Statement.ofLine_lowerAscii, statement?]
  cases Statement.ofLine l.text <;> rfl

end NumberedLine

def DroppedLine.foldCase (d : DroppedLine) : DroppedLine :=
  { d with line := d.line.foldCase }

/-- The dropped lines are the same except for the letter case of their texts. -/
structure DroppedLine.SameButCase (d e : DroppedLine) : Prop where
  number : d.line.number = e.line.number
  text : Text.SameButCase d.line.text e.line.text
  fault : d.fault = e.fault

theorem DroppedLine.sameButCase_of_foldCase_eq {d e : DroppedLine}
    (same : d.foldCase = e.foldCase) : SameButCase d e := by
  obtain ⟨line, fault⟩ := DroppedLine.mk.inj same
  obtain ⟨number, text⟩ := NumberedLine.mk.inj line
  exact ⟨number, Text.sameButCase_iff.mpr text, fault⟩

theorem NumberedLine.dropped?_foldCase (l : NumberedLine) :
    l.foldCase.dropped? = l.dropped?.map DroppedLine.foldCase := by
  simp only [dropped?, foldCase, Statement.ofLine_lowerAscii]
  cases Statement.ofLine l.text <;> rfl

/-! ## Blocks -/

namespace Block

def foldCase (b : Block) : Block :=
  { b with lines := b.lines.map NumberedLine.foldCase }

theorem ofSource_lowerAscii (source : String) :
    ofSource (lowerAscii source) = (ofSource source).map foldCase := by
  rw [ofSource, NumberedLine.ofSource_lowerAscii]
  exact split_map NumberedLine.leadingType?_foldCase _

end Block

end LayeredScene
