import LayeredScene.Object.OfLines
import LayeredScene.Proofs.Source.Blocks
import LayeredScene.Proofs.Traversal

/-! # Readings of lines that stand elsewhere

Of a line only its text decides what it gives to an object, so that the same texts under other
numbers give the same object and drop the same texts.
-/

namespace LayeredScene

variable {f : NumberedLine → NumberedLine}

def DroppedLine.mapLine (f : NumberedLine → NumberedLine) (d : DroppedLine) : DroppedLine :=
  { d with line := f d.line }

namespace NumberedLine

theorem leadingType?_congr {l l' : NumberedLine} (same : l.text = l'.text) :
    l.leadingType? = l'.leadingType? := by
  rw [leadingType?, leadingType?, same]

theorem statement?_congr {l l' : NumberedLine} (same : l.text = l'.text) :
    l.statement? = l'.statement? := by
  rw [statement?, statement?, same]

theorem dropped?_map (same : ∀ l, (f l).text = l.text) (l : NumberedLine) :
    (f l).dropped? = l.dropped?.map (DroppedLine.mapLine f) := by
  rw [dropped?, dropped?, same]
  cases Statement.ofLine l.text <;> rfl

end NumberedLine

namespace Reading

theorem objectType_congr {l l' : NumberedLine} (same : l.text = l'.text)
    (statements : List Statement) : objectType statements l = objectType statements l' := by
  cases statements with
  | nil => rw [objectType, objectType, NumberedLine.leadingType?_congr same, same]
  | cons s _ => rfl

/-- The reading of the same lines, each with something changed. -/
def mapLines (f : NumberedLine → NumberedLine) (r : Reading) : Reading :=
  { r with dropped := r.dropped.map (DroppedLine.mapLine f) }

theorem ofLines?_map (same : ∀ l, (f l).text = l.text) (lines : List NumberedLine) :
    ofLines? (lines.map f) = (ofLines? lines).map (mapLines f) := by
  have statements : (lines.map f).filterMap NumberedLine.statement? =
      lines.filterMap NumberedLine.statement? := by
    rw [List.filterMap_map]
    exact List.filterMap_congr fun l _ => NumberedLine.statement?_congr (same l)
  have dropped := filterMap_map_comm (NumberedLine.dropped?_map same) lines
  cases lines with
  | nil => rfl
  | cons first rest =>
    rw [List.map_cons] at statements dropped ⊢
    rw [ofLines?, statements, dropped, objectType_congr (same first)]
    rfl

end Reading

end LayeredScene
