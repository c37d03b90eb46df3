import LayeredScene.Object.OfLines
import LayeredScene.Proofs.Source.Lines
import LayeredScene.Proofs.Statement.Commands
import LayeredScene.Proofs.Text.SingleLines

/-! # No line feed comes out of a line

What is read from a line of a source text is cut out of the line and put in upper or lower case; so
the types and the layers that lines name are single lines themselves.
-/

namespace LayeredScene

open Text (IsLine)

theorem isLine_of_mem_segments {line segment : String} (h : IsLine line)
    (hs : segment ∈ segments line) : IsLine segment := by
  obtain ⟨piece, hp, rfl⟩ := List.mem_map.mp hs
  exact (h.of_mem_split hp).trim

namespace NumberedLine

theorem isLine_text {source : String} {l : NumberedLine} (h : l ∈ ofSource source) :
    IsLine l.text := by
  obtain ⟨-, text⟩ := getElem?_of_mem_ofSource h
  obtain ⟨raw, listed, same⟩ := Option.map_eq_some_iff.mp text
  rw [← same]
  exact (Text.isLine_of_mem_lines (List.mem_of_getElem? listed)).trim

variable {l : NumberedLine}

theorem isLine_leadingType {objectType : String} (line : IsLine l.text)
    (h : l.leadingType? = some objectType) : IsLine objectType := by
  unfold leadingType? at h
  split at h
  · next parts =>
    cases h
    exact (isLine_of_mem_segments line (parts ▸ List.mem_cons_self)).upper
  · cases h

theorem isLine_layer {s : Statement} (line : IsLine l.text) (h : l.statement? = some s) :
    IsLine s.layer := by
  unfold statement? Statement.ofLine at h
  split at h
  · next objectType layer commands rest parts =>
    simp only [Except.toOption, Option.some.injEq] at h
    rw [← h, Statement.ofSegments, Statement.layer_foldl_apply]
    have listed : layer ∈ segments l.text := by simp [parts]
    exact (isLine_of_mem_segments line listed).lower
  · cases h

end NumberedLine

end LayeredScene
