import LayeredScene.Proofs.Text.Lines

/-! # Texts without some of their lines

A text that is put together from lines has these lines, whether or not the last of them ends with a
line feed (`lines_ended_append`).  So a text from which whole lines are taken, line ends included,
has the lines that are left.
-/

namespace LayeredScene.Text

/-- The text with only those of its lines that are kept, each with its line end. -/
def keepLines (keep : List Char → Bool) (s : String) : String :=
  let ps := pieces (· == '\n') s.toList
  let whole := ps.dropLast.filter keep
  String.ofList (whole.flatMap (· ++ ['\n']) ++ (ps.getLast?.filter keep).getD [])

/-! ## Pieces -/

variable {c : Char}

theorem not_mem_of_mem_pieces {p cs : List Char} (hp : p ∈ pieces (· == c) cs) : c ∉ p := by
  induction cs generalizing p with
  | nil =>
    obtain rfl := List.mem_singleton.mp hp
    exact List.not_mem_nil
  | cons d cs ih =>
    rw [pieces_cons] at hp
    by_cases ends : d = c
    · simp only [ends, beq_self_eq_true, if_true] at hp
      cases hp with
      | head => exact List.not_mem_nil
      | tail _ hp => exact ih hp
    · simp only [beq_iff_eq, ends, if_false] at hp
      -- A character that ends no piece joins the first one.
      cases first : pieces (· == c) cs with
      | nil => exact absurd first (pieces_ne_nil _ cs)
      | cons q qs =>
        rw [first] at ih hp
        cases hp with
        | head => simp [Ne.symm ends, ih List.mem_cons_self]
        | tail _ later => exact ih (List.mem_cons_of_mem _ later)

theorem pieces_of_not_mem {cs : List Char} (h : c ∉ cs) : pieces (· == c) cs = [cs] := by
  induction cs with
  | nil => rfl
  | cons d cs ih =>
    rw [List.mem_cons, not_or] at h
    rw [pieces_cons, ih h.2]
    simp [Ne.symm h.1]

theorem pieces_append_self (before after : List Char) :
    pieces (· == c) (before ++ c :: after) = pieces (· == c) before ++ pieces (· == c) after := by
  apply pieces_append_cons
  exact beq_self_eq_true c

/-- Texts without the separator, with one behind each, are the pieces again. -/
theorem pieces_ended_append {whole : List (List Char)} {last : List Char}
    (inside : ∀ p ∈ whole, c ∉ p) (behind : c ∉ last) :
    pieces (· == c) (whole.flatMap (· ++ [c]) ++ last) = whole ++ [last] := by
  induction whole with
  | nil => exact pieces_of_not_mem behind
  | cons p whole ih =>
    have first := pieces_of_not_mem (inside p List.mem_cons_self)
    have rest := ih fun q hq => inside q (List.mem_cons_of_mem _ hq)
    rw [List.flatMap_cons, List.append_assoc, List.append_assoc, List.singleton_append,
      pieces_append_self, first, rest]
    rfl

/-- Texts without the separator, with one between them, are the pieces again. -/
theorem pieces_intercalate {ps : List (List Char)} (some : ps ≠ []) (inside : ∀ p ∈ ps, c ∉ p) :
    pieces (· == c) ([c].intercalate ps) = ps := by
  induction ps with
  | nil => exact absurd rfl some
  | cons p ps ih =>
    rw [List.forall_mem_cons] at inside
    cases ps with
    | nil => rw [List.intercalate_singleton, pieces_of_not_mem inside.1]
    | cons q qs =>
      rw [List.intercalate_cons_cons, List.append_assoc, List.singleton_append,
        pieces_append_self, pieces_of_not_mem inside.1,
        ih (List.cons_ne_nil _ _) inside.2, List.singleton_append]

/-- The pieces with the separator between them are the text. -/
theorem intercalate_pieces (c : Char) (cs : List Char) :
    [c].intercalate (pieces (· == c) cs) = cs := by
  induction cs with
  | nil => rfl
  | cons d cs ih =>
    rw [pieces_cons]
    cases first : pieces (· == c) cs with
    | nil => exact absurd first (pieces_ne_nil _ cs)
    | cons p ps =>
      rw [first] at ih
      by_cases ends : d = c
      · simp [ends, List.intercalate_cons_cons, ih]
      · rw [← ih]
        cases ps <;> simp [ends, List.intercalate_cons_cons]

/-! ## Lines -/

/-- The lines of a text that is given by its lines and by what stands behind the last line feed. -/
theorem lines_ended_append {whole : List (List Char)} {last : List Char}
    (inside : ∀ p ∈ whole, '\n' ∉ p) (behind : '\n' ∉ last) :
    lines (String.ofList (whole.flatMap (· ++ ['\n']) ++ last)) =
      (whole.map dropReturn ++ if last.isEmpty then [] else [last]).map String.ofList := by
  rw [lines, String.toList_ofList, pieces_ended_append inside behind, List.dropLast_concat,
    List.getLast?_concat]
  cases last <;> rfl

/-- Whole lines are kept if an empty line is not, and if it makes no difference whether a carriage
    return belongs to a line or to its end. -/
theorem lines_keepLines {keep : List Char → Bool} (empty : keep [] = false)
    (unended : ∀ cs, keep (dropReturn cs) = keep cs) (s : String) :
    lines (keepLines keep s) = (lines s).filter fun line => keep line.toList := by
  obtain none | ⟨whole, last, split⟩ := List.eq_nil_or_concat (pieces (· == '\n') s.toList)
  · exact absurd none (pieces_ne_nil _ _)
  rw [List.concat_eq_append] at split
  have inside : ∀ p ∈ whole ++ [last], '\n' ∉ p := fun p hp =>
    not_mem_of_mem_pieces (split ▸ hp)
  have insideKept : ∀ p ∈ whole.filter keep, '\n' ∉ p := fun p hp =>
    inside p (List.mem_append_left _ (List.mem_filter.mp hp).1)
  have keptWhole : ((whole.map dropReturn).map String.ofList).filter (fun l => keep l.toList) =
      ((whole.filter keep).map dropReturn).map String.ofList := by
    simp [List.filter_map, Function.comp_def, unended]
  have given : (lines s).filter (fun l => keep l.toList) =
      ((whole.filter keep).map dropReturn).map String.ofList ++
        if keep last then [String.ofList last] else [] := by
    rw [lines, split, List.dropLast_concat, List.getLast?_concat, List.map_append,
      List.filter_append, keptWhole]
    cases last with
    | nil => simp [empty]
    | cons c cs =>
      simp only [Option.filter_some, List.isEmpty_cons, Bool.not_false, if_true,
        Option.toList_some, List.map_singleton, List.filter_cons, List.filter_nil,
        String.toList_ofList]
  rw [given, keepLines, split, List.dropLast_concat, List.getLast?_concat]
  by_cases keeps : keep last
  · have nonempty : last.isEmpty = false := by
      cases last with
      | nil => exact absurd keeps (by simp [empty])
      | cons c cs => rfl
    simp only [Option.filter_some, keeps, if_true, Option.getD_some]
    rw [lines_ended_append insideKept (inside last (by simp)), List.map_append, nonempty]
    rfl
  · simp only [Option.filter_some, keeps, if_false, Option.getD_none, Bool.false_eq_true]
    rw [lines_ended_append insideKept List.not_mem_nil, List.map_append]
    rfl

/-! ## Characters that are never cut off -/

theorem mem_dropWhile_iff {p : Char → Bool} (h : p c = false) (cs : List Char) :
    c ∈ cs.dropWhile p ↔ c ∈ cs := by
  induction cs with
  | nil => rfl
  | cons d cs ih =>
    rw [List.dropWhile_cons]
    split
    · next dropped =>
      have other : c ≠ d := by
        rintro rfl
        simp [h] at dropped
      rw [ih, List.mem_cons, or_iff_right other]
    · rfl

theorem mem_trim_iff (h : isBlank c = false) (s : String) :
    c ∈ (trim s).toList ↔ c ∈ s.toList := by
  rw [trim, String.toList_ofList, trimChars, List.mem_reverse, mem_dropWhile_iff h,
    List.mem_reverse, mem_dropWhile_iff h]

theorem mem_dropReturn_iff (h : c ≠ '\r') (cs : List Char) :
    c ∈ dropReturn cs ↔ c ∈ cs := by
  rw [dropReturn]
  split
  · next last =>
    obtain ⟨front, rfl⟩ := List.getLast?_eq_some_iff.mp last
    simp [h]
  · rfl

end LayeredScene.Text
