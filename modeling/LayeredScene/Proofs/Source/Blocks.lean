import LayeredScene.Source.Block

/-! # Blocks hold the lines of their source

Splitting lines into blocks loses no line, repeats none and keeps their order, and every block has
a line.  The induction is on the lines that are left, with the unfinished block as its state.  Of a
line only its leading type decides in which block it stands (`split_map`).
-/

namespace LayeredScene.Block

theorem lines_of_take? {b b' : Block} {l : NumberedLine} (h : b.take? l = some b') :
    b'.lines = b.lines ++ [l] := by
  unfold take? at h
  split at h
  · cases h; rfl
  · split at h
    · cases h; rfl
    · cases h

theorem flatMap_lines_splitFrom (b : Block) (ls : List NumberedLine) :
    (splitFrom b ls).flatMap (·.lines) = b.lines ++ ls := by
  induction ls generalizing b with
  | nil => simp [splitFrom]
  | cons l ls ih =>
    simp only [splitFrom]
    -- The line joins the unfinished block, or it finishes that block and starts another.
    split
    · next b' taken => rw [ih, lines_of_take? taken, List.append_assoc, List.singleton_append]
    · rw [List.flatMap_cons, ih]; rfl

/-- The blocks of some lines hold exactly these lines in order. -/
theorem flatMap_lines_split (ls : List NumberedLine) : (split ls).flatMap (·.lines) = ls := by
  cases ls with
  | nil => rfl
  | cons l ls => exact flatMap_lines_splitFrom (start l) ls

theorem lines_ne_nil_of_mem_splitFrom {b b' : Block} {ls : List NumberedLine} (hb : b.lines ≠ [])
    (h : b' ∈ splitFrom b ls) : b'.lines ≠ [] := by
  induction ls generalizing b with
  | nil =>
    obtain rfl := List.mem_singleton.1 h
    exact hb
  | cons l ls ih =>
    simp only [splitFrom] at h
    -- An unfinished block only grows, and a new one starts with a line.
    split at h
    · next longer taken => exact ih (by simp [lines_of_take? taken]) h
    · rcases List.mem_cons.1 h with rfl | later
      · exact hb
      · exact ih (List.cons_ne_nil _ _) later

theorem lines_ne_nil_of_mem_split {b : Block} {ls : List NumberedLine} (h : b ∈ split ls) :
    b.lines ≠ [] := by
  cases ls with
  | nil => cases h
  | cons l ls => exact lines_ne_nil_of_mem_splitFrom (List.cons_ne_nil _ _) h

theorem split_eq_nil_iff {ls : List NumberedLine} : split ls = [] ↔ ls = [] := by
  constructor
  · intro h
    rw [← flatMap_lines_split ls, h, List.flatMap_nil]
  · rintro rfl
    rfl

/-! ## Lines that lead with the same type -/

/-- The block with each of its lines changed. -/
def mapLines (f : NumberedLine → NumberedLine) (b : Block) : Block :=
  { b with lines := b.lines.map f }

variable {f : NumberedLine → NumberedLine}

theorem start_mapLines (same : ∀ l, (f l).leadingType? = l.leadingType?) (l : NumberedLine) :
    start (f l) = (start l).mapLines f := by
  simp [start, mapLines, same]

theorem take?_mapLines (same : ∀ l, (f l).leadingType? = l.leadingType?) (b : Block)
    (l : NumberedLine) : (b.mapLines f).take? (f l) = (b.take? l).map (mapLines f) := by
  simp only [take?, same]
  cases l.leadingType? with
  | none => simp [mapLines]
  | some objectType =>
    by_cases belongs : b.objectType = objectType ∨ b.objectType = "" <;> simp [mapLines, belongs]

theorem splitFrom_mapLines (same : ∀ l, (f l).leadingType? = l.leadingType?) (b : Block)
    (ls : List NumberedLine) :
    splitFrom (b.mapLines f) (ls.map f) = (splitFrom b ls).map (mapLines f) := by
  induction ls generalizing b with
  | nil => rfl
  | cons l ls ih =>
    simp only [List.map_cons, splitFrom, take?_mapLines same]
    cases b.take? l with
    | none => simp [start_mapLines same, ih]
    | some longer => simp [ih]

/-- Where the blocks begin and end depends on the leading types alone. -/
theorem split_map (same : ∀ l, (f l).leadingType? = l.leadingType?) (ls : List NumberedLine) :
    split (ls.map f) = (split ls).map (mapLines f) := by
  cases ls with
  | nil => rfl
  | cons l ls =>
    rw [List.map_cons, split, split, start_mapLines same, splitFrom_mapLines same]

end LayeredScene.Block
