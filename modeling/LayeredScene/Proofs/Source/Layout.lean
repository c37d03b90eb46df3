import LayeredScene.Proofs.Source.Concatenation
import LayeredScene.Proofs.Text.KeptLines

/-! # Edits of the layout of a source text

The layout of a source text is what it has besides its lines with statements: lines that are
skipped, blank space around the lines, and carriage returns at line ends.  `Relaid` is the relation
between a text and what is left of it after any number of edits of its layout, and it says where
each line went.  Every edit is at the start or the end of a line, and there the text can be cut in
two; so each of them comes down to blank space in front of a text or behind it
(`ofSource_append_gap`) and to the lines of texts that follow each other.
-/

namespace LayeredScene

open Text (isBlank lineFeeds pieces split trim trimChars)

/-! ## Places and pieces of text -/

/-- A place that is reached at the start of a line: nothing is before it but whole lines. -/
def AtLineStart (before : String) : Prop :=
  before = "" ∨ ∃ whole, before = whole ++ "\n"

/-- A place that is left at the end of a line: what follows is nothing or a line end. -/
def AtLineEnd (after : String) : Prop :=
  after = "" ∨ ∃ rest, after = "\n" ++ rest ∨ after = "\r\n" ++ rest

/-- Blank space without a line feed. -/
def IsGap (space : String) : Prop :=
  ∀ c ∈ space.toList, isBlank c = true ∧ c ≠ '\n'

/-- A single line in which there is nothing but blank space before the end or before a `#`. -/
structure IsSkipped (line : String) : Prop where
  single : '\n' ∉ line.toList
  skipped : ∀ c, (line.toList.dropWhile isBlank).head? = some c → c = '#'

/-! ## Edits -/

/-- The new number of a line when another one is put behind the first `count` lines. -/
def madeRoom (count n : Nat) : Nat :=
  if n ≤ count then n else n + 1

/-- One edit of the layout of a text, with the new numbers that it gives to the lines. -/
inductive LayoutEdit : (Nat → Nat) → String → String → Prop where
  /-- Another line is put before a line or at the end. -/
  | insertLine {before line after : String} (start : AtLineStart before)
      (skipped : IsSkipped line) :
      LayoutEdit (madeRoom (lineFeeds before)) (before ++ after) (before ++ line ++ "\n" ++ after)
  /-- The text goes on behind its last line with another one. -/
  | appendLine {source line : String} (skipped : IsSkipped line) :
      LayoutEdit id source (source ++ "\n" ++ line)
  /-- The text goes on behind its last line end with a line that has none. -/
  | appendOpenLine {source line : String} (start : AtLineStart source) (skipped : IsSkipped line) :
      LayoutEdit id source (source ++ line)
  | spaceBefore {before space after : String} (start : AtLineStart before) (gap : IsGap space) :
      LayoutEdit id (before ++ after) (before ++ space ++ after)
  | spaceBehind {before space after : String} (stop : AtLineEnd after) (gap : IsGap space) :
      LayoutEdit id (before ++ after) (before ++ space ++ after)
  | carriageReturn {before after : String} :
      LayoutEdit id (before ++ "\n" ++ after) (before ++ "\r\n" ++ after)

/-- The second text is the first after any number of edits of its layout. -/
inductive Relaid : (Nat → Nat) → String → String → Prop where
  | unchanged (source : String) : Relaid id source source
  | edited {f g : Nat → Nat} {source source' source'' : String} (before : Relaid f source source')
      (last : LayoutEdit g source' source'') : Relaid (g ∘ f) source source''

/-! ## Blank space around a line -/

namespace Text

theorem trimChars_blank_append {space : List Char} (blank : ∀ c ∈ space, isBlank c = true)
    (cs : List Char) : trimChars (space ++ cs) = trimChars cs := by
  rw [trimChars, List.dropWhile_append_of_pos blank, trimChars]

theorem trimChars_append_blanks {space : List Char} (blank : ∀ c ∈ space, isBlank c = true)
    (cs : List Char) : trimChars (cs ++ space) = trimChars cs := by
  induction space generalizing cs with
  | nil => rw [List.append_nil]
  | cons c space ih =>
    rw [List.append_cons, ih fun d hd => blank d (List.mem_cons_of_mem _ hd)]
    exact trimChars_append_blank (blank c List.mem_cons_self) cs

/-- Trimming a text takes nothing from its front but blank space. -/
theorem head?_trimChars (cs : List Char) :
    (trimChars cs).head? = (cs.dropWhile isBlank).head? := by
  rw [trimChars]
  cases rest : cs.dropWhile isBlank with
  | nil => rfl
  | cons c rest' =>
    have visible : isBlank c = false := by
      have first := List.head?_dropWhile_not isBlank cs
      simpa [rest] using first
    rw [List.reverse_cons, List.dropWhile_append]
    split <;> simp [visible]

section

variable {c : Char} {space : List Char}

/-- What follows a text without a separator joins the last piece. -/
theorem exists_pieces_append (cs : List Char) (inside : c ∉ space) :
    ∃ front last, pieces (· == c) cs = front ++ [last] ∧
      pieces (· == c) (cs ++ space) = front ++ [last ++ space] := by
  induction cs with
  | nil => exact ⟨[], [], rfl, pieces_of_not_mem inside⟩
  | cons d cs ih =>
    obtain ⟨front, last, here, joined⟩ := ih
    rw [List.cons_append, pieces_cons, pieces_cons, here, joined]
    by_cases ends : (d == c) = true
    · exact ⟨[] :: front, last, by simp [ends], by simp [ends]⟩
    · cases front with
      | nil => exact ⟨[], d :: last, by simp [ends], by simp [ends]⟩
      | cons p front => exact ⟨(d :: p) :: front, last, by simp [ends], by simp [ends]⟩

/-- What precedes a text without a separator joins the first piece. -/
theorem exists_append_pieces (cs : List Char) (inside : c ∉ space) :
    ∃ first rest, pieces (· == c) cs = first :: rest ∧
      pieces (· == c) (space ++ cs) = (space ++ first) :: rest := by
  induction space with
  | nil =>
    obtain ⟨first, rest, here⟩ := List.exists_cons_of_ne_nil (pieces_ne_nil (· == c) cs)
    exact ⟨first, rest, here, here⟩
  | cons d space ih =>
    rw [List.mem_cons, not_or] at inside
    obtain ⟨first, rest, here, joined⟩ := ih inside.2
    refine ⟨first, rest, here, ?_⟩
    rw [List.cons_append, pieces_cons, joined]
    simp [Ne.symm inside.1]

end

end Text

/-! ## The lines that count -/

namespace NumberedLine

/-- Only the trimmed texts of lines play a part. -/
theorem numbered_congr {texts texts' : List String} (same : texts.map trim = texts'.map trim)
    (first : Nat) : numbered first texts = numbered first texts' := by
  have trimmed (texts : List String) : numbered first texts =
      ((texts.map trim).zipIdx first).map fun t => ⟨t.2, t.1⟩ := by
    rw [numbered_eq_map, List.zipIdx_map, List.map_map]
    rfl
  rw [trimmed, trimmed, same]

/-- It makes no difference to the lines that count what ends the last line, or that carriage returns
    belong to line ends. -/
theorem ofSource_eq_split (source : String) :
    ofSource source = (numbered 1 (split '\n' source)).filter counts := by
  rw [← ofSource_append_lineFeed, ofSource, Text.lines_append_lineFeed]
  congr 1
  apply numbered_congr
  simp [split, Text.trim_dropReturn]

theorem ofSource_congr {source source' : String}
    (same : (split '\n' source).map trim = (split '\n' source').map trim) :
    ofSource source = ofSource source' := by
  rw [ofSource_eq_split, ofSource_eq_split, numbered_congr same]

theorem ofSource_append_gap {space : String} (gap : IsGap space) (source : String) :
    ofSource (source ++ space) = ofSource source := by
  obtain ⟨front, last, here, joined⟩ := Text.exists_pieces_append (c := '\n')
    source.toList (fun feed => (gap _ feed).2 rfl)
  apply ofSource_congr
  rw [split, split, String.toList_append, here, joined]
  simp [trim, Text.trimChars_append_blanks fun c hc => (gap c hc).1]

theorem ofSource_gap_append {space : String} (gap : IsGap space) (source : String) :
    ofSource (space ++ source) = ofSource source := by
  obtain ⟨first, rest, here, joined⟩ := Text.exists_append_pieces (c := '\n')
    source.toList (fun feed => (gap _ feed).2 rfl)
  apply ofSource_congr
  rw [split, split, String.toList_append, here, joined]
  simp [trim, Text.trimChars_blank_append fun c hc => (gap c hc).1]

theorem ofSource_of_skipped {line : String} (skipped : IsSkipped line) : ofSource line = [] := by
  have single : split '\n' line = [line] := by
    rw [split, Text.pieces_of_not_mem skipped.single]
    simp
  have notCounted : counts ⟨1, trim line⟩ = false := by
    have first := Text.head?_trimChars line.toList
    rw [counts, trim, String.toList_ofList]
    cases left : trimChars line.toList with
    | nil => rfl
    | cons c cs =>
      rw [left] at first
      simp [skipped.skipped c first.symm]
  rw [ofSource_eq_split, single]
  simp [numbered, notCounted]

theorem lineFeeds_append_gap {space : String} (gap : IsGap space) (source : String) :
    lineFeeds (source ++ space) = lineFeeds source := by
  have none : space.toList.count '\n' = 0 :=
    List.count_eq_zero.mpr fun feed => (gap _ feed).2 rfl
  rw [lineFeeds, String.toList_append, List.count_append, none, lineFeeds, Nat.add_zero]

/-- Blank space at the end of a line that is followed by others. -/
theorem ofSource_append_gap_append {space : String} (gap : IsGap space) (source after : String) :
    ofSource (source ++ space ++ "\n" ++ after) = ofSource (source ++ "\n" ++ after) := by
  rw [ofSource_append, ofSource_append, ofSource_append_gap gap, lineFeeds_append_gap gap]

theorem lineFeeds_append_lineFeed (source : String) :
    lineFeeds (source ++ "\n") = lineFeeds source + 1 := by
  rw [lineFeeds, String.toList_append, List.count_append]
  rfl

/-- What is behind whole lines is further down and otherwise as it is by itself. -/
theorem ofSource_append_of_start {before : String} (start : AtLineStart before) (after : String) :
    ofSource (before ++ after) =
      ofSource before ++ (ofSource after).map (movedDown (lineFeeds before)) := by
  cases start with
  | inl none =>
    subst none
    rw [String.empty_append]
    exact (List.map_id _).symm
  | inr ended =>
    obtain ⟨whole, rfl⟩ := ended
    rw [ofSource_append, ofSource_append_lineFeed, lineFeeds_append_lineFeed]

/-- The numbers of whole lines go as far as there are line feeds. -/
theorem number_le_of_start {before : String} (start : AtLineStart before) {l : NumberedLine}
    (hl : l ∈ ofSource before) : l.number ≤ lineFeeds before := by
  cases start with
  | inl none =>
    subst none
    cases hl
  | inr ended =>
    obtain ⟨whole, rfl⟩ := ended
    obtain ⟨first, text⟩ := getElem?_of_mem_ofSource hl
    obtain ⟨raw, listed, -⟩ := Option.map_eq_some_iff.mp text
    have inside := lt_length_of_getElem? listed
    rw [Text.length_lines_append_lineFeed] at inside
    rw [lineFeeds_append_lineFeed]
    omega

/-- The line under another number. -/
def renumber (f : Nat → Nat) (l : NumberedLine) : NumberedLine :=
  { l with number := f l.number }

theorem map_renumber_eq_self {f : Nat → Nat} {ls : List NumberedLine}
    (fixed : ∀ l ∈ ls, f l.number = l.number) : ls.map (renumber f) = ls := by
  rw [List.map_congr_left fun l hl => ?_, List.map_id]
  rw [renumber, fixed l hl]
  rfl

/-! ## Edits of the lines that count -/

theorem isGap_return : IsGap "\r" := by
  intro c hc
  obtain rfl : c = '\r' := by simpa using hc
  decide

theorem ofSource_insertLine {before line : String} (after : String) (start : AtLineStart before)
    (skipped : IsSkipped line) :
    ofSource (before ++ line ++ "\n" ++ after) =
      (ofSource (before ++ after)).map (renumber (madeRoom (lineFeeds before))) := by
  have feeds : lineFeeds line = 0 := List.count_eq_zero.mpr skipped.single
  have inserted : ofSource (line ++ "\n" ++ after) = (ofSource after).map (movedDown 1) := by
    rw [ofSource_append, ofSource_of_skipped skipped, feeds]
    rfl
  have assoc : before ++ line ++ "\n" ++ after = before ++ (line ++ "\n" ++ after) := by
    simp only [String.append_assoc]
  rw [assoc, ofSource_append_of_start start, ofSource_append_of_start start, inserted,
    List.map_append]
  congr 1
  · refine (map_renumber_eq_self fun l hl => ?_).symm
    exact if_pos (number_le_of_start start hl)
  · rw [List.map_map, List.map_map]
    apply List.map_congr_left
    intro l hl
    have positive : 1 ≤ l.number := (getElem?_of_mem_ofSource hl).1
    have room : madeRoom (lineFeeds before) (l.number + lineFeeds before) =
        l.number + lineFeeds before + 1 := if_neg (by omega)
    simp only [Function.comp_apply, movedDown, renumber]
    rw [room, Nat.add_right_comm]

/-- An edit of the layout gives the lines that count new numbers and does nothing else to them. -/
theorem ofSource_of_edit {f : Nat → Nat} {source source' : String}
    (edit : LayoutEdit f source source') :
    ofSource source' = (ofSource source).map (renumber f) := by
  have unmoved (ls : List NumberedLine) : ls.map (renumber id) = ls :=
    map_renumber_eq_self fun _ _ => rfl
  cases edit with
  | insertLine start skipped => exact ofSource_insertLine _ start skipped
  | appendLine skipped =>
    rw [unmoved, ofSource_append, ofSource_of_skipped skipped, List.map_nil, List.append_nil]
  | appendOpenLine start skipped =>
    rw [unmoved, ofSource_append_of_start start, ofSource_of_skipped skipped, List.map_nil,
      List.append_nil]
  | @spaceBefore before space after start gap =>
    rw [unmoved, String.append_assoc, ofSource_append_of_start start,
      ofSource_append_of_start start, ofSource_gap_append gap]
  | @spaceBehind before space after stop gap =>
    rw [unmoved]
    rcases stop with rfl | ⟨rest, rfl | rfl⟩
    · rw [String.append_empty, String.append_empty, ofSource_append_gap gap]
    · rw [← String.append_assoc, ← String.append_assoc, ofSource_append_gap_append gap]
    · -- The carriage return is blank space too.
      have cut (text : String) : text ++ ("\r\n" ++ rest) = text ++ "\r" ++ "\n" ++ rest := by
        rw [show "\r\n" = "\r" ++ "\n" from rfl]
        simp only [String.append_assoc]
      rw [cut, cut, ofSource_append_gap_append isGap_return,
        ofSource_append_gap_append isGap_return, ofSource_append_gap_append gap]
  | @carriageReturn before after =>
    rw [unmoved, show "\r\n" = "\r" ++ "\n" from rfl, ← String.append_assoc,
      ofSource_append_gap_append isGap_return]

theorem ofSource_of_relaid {f : Nat → Nat} {source source' : String}
    (relaid : Relaid f source source') :
    ofSource source' = (ofSource source).map (renumber f) := by
  induction relaid with
  | unchanged source => exact (map_renumber_eq_self fun _ _ => rfl).symm
  | edited before last ih =>
    rw [ofSource_of_edit last, ih, List.map_map]
    rfl

end NumberedLine

end LayeredScene
