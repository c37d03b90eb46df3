import LayeredScene.Proofs.Text.KeptLines
import LayeredScene.Proofs.Text.LetterCase

/-! # Texts that are single lines

Cutting a text brings in no characters, and no other character has a line feed in its upper or lower
case; so what is cut out of a line is a line.  Lines with line feeds between them or behind them are
the lines of the text, if none of them ends with a carriage return.
-/

namespace LayeredScene.Text

/-- A text that is at most one line. -/
def IsLine (s : String) : Prop := '\n' ∉ s.toList

instance (s : String) : Decidable (IsLine s) := inferInstanceAs (Decidable ('\n' ∉ s.toList))

theorem isLine_append {s t : String} : IsLine (s ++ t) ↔ IsLine s ∧ IsLine t := by
  rw [IsLine, String.toList_append, List.mem_append, not_or, IsLine, IsLine]

/-! ## Cutting -/

theorem mem_of_mem_trim {c : Char} {s : String} (h : c ∈ (trim s).toList) : c ∈ s.toList := by
  rw [trim, String.toList_ofList, trimChars, List.mem_reverse] at h
  have front := (List.dropWhile_sublist _).subset h
  rw [List.mem_reverse] at front
  exact (List.dropWhile_sublist _).subset front

theorem mem_of_mem_pieces {p : Char → Bool} {cs piece : List Char} (hp : piece ∈ pieces p cs)
    {c : Char} (hc : c ∈ piece) : c ∈ cs := by
  induction cs generalizing piece with
  | nil =>
    obtain rfl := List.mem_singleton.mp hp
    cases hc
  | cons d cs ih =>
    obtain ⟨first, rest, here⟩ := List.exists_cons_of_ne_nil (pieces_ne_nil p cs)
    rw [here] at ih
    rw [pieces_cons, here] at hp
    by_cases ends : p d = true
    · rw [if_pos ends] at hp
      cases hp with
      | head => cases hc
      | tail _ hp => exact List.mem_cons_of_mem _ (ih hp hc)
    · rw [if_neg ends] at hp
      cases hp with
      | head =>
        cases hc with
        | head => exact List.mem_cons_self
        | tail _ hc => exact List.mem_cons_of_mem _ (ih List.mem_cons_self hc)
      | tail _ hp => exact List.mem_cons_of_mem _ (ih (List.mem_cons_of_mem _ hp) hc)

theorem IsLine.trim {s : String} (h : IsLine s) : IsLine (trim s) :=
  fun feed => h (mem_of_mem_trim feed)

theorem IsLine.of_mem_split {sep : Char} {s piece : String} (h : IsLine s)
    (hp : piece ∈ split sep s) : IsLine piece := by
  obtain ⟨cs, hcs, rfl⟩ := List.mem_map.mp hp
  intro feed
  rw [String.toList_ofList] at feed
  exact h (mem_of_mem_pieces hcs feed)

theorem isLine_of_mem_lines {line source : String} (h : line ∈ lines source) : IsLine line := by
  obtain ⟨cs, hcs, rfl⟩ := List.mem_map.mp h
  rw [IsLine, String.toList_ofList]
  cases List.mem_append.mp hcs with
  | inl whole =>
    obtain ⟨piece, hp, rfl⟩ := List.mem_map.mp whole
    rw [mem_dropReturn_iff (by decide)]
    exact not_mem_of_mem_pieces (List.mem_of_mem_dropLast hp)
  | inr last =>
    have listed := Option.filter_eq_some_iff.mp (Option.mem_toList.mp last)
    exact not_mem_of_mem_pieces (List.mem_of_getLast? listed.1)

/-! ## Upper and lower case -/

theorem eq_of_ofNat_eq_lineFeed {n : Nat} (h : Char.ofNat n = '\n') : n = 10 := by
  have point := congrArg Char.toNat h
  rw [Char.toNat_ofNat] at point
  split at point
  · exact point
  · cases point

/-- Tables without a line feed among their results bring in none. -/
theorem eq_of_lineFeed_mem_mapChar {long : List (Nat × List Nat)} {spans : List CaseSpan}
    (longs : long.all fun entry => !entry.2.contains 10)
    (singles : spans.all fun s => 10 < s.first + s.shift) {c : Char}
    (h : '\n' ∈ mapChar long spans c) : c = '\n' := by
  unfold mapChar at h
  split at h
  · next ns found =>
    obtain ⟨n, hn, same⟩ := List.mem_map.mp h
    obtain ⟨before, after, entries, -⟩ := List.lookup_eq_some_iff.mp found
    have listed : (c.toNat, ns) ∈ long := by simp [entries]
    have none : 10 ∉ ns := by simpa using List.all_eq_true.mp longs _ listed
    exact absurd (eq_of_ofNat_eq_lineFeed same ▸ hn) none
  · split at h
    · next n found =>
      have shifted := eq_of_ofNat_eq_lineFeed (List.mem_singleton.mp h).symm
      obtain ⟨s, hs, rfl⟩ := Option.map_eq_some_iff.mp found
      have above := of_decide_eq_true
        (List.all_eq_true.mp singles s (List.mem_of_find?_eq_some hs))
      have holds := List.find?_some hs
      simp only [CaseSpan.holds, Bool.and_eq_true, decide_eq_true_eq] at holds
      omega
    · exact (List.mem_singleton.mp h).symm

theorem eq_of_toUpper_eq_lineFeed {c : Char} (h : c.toUpper = '\n') : c = '\n' := by
  rw [Char.toUpper] at h
  split at h
  · next small =>
    obtain ⟨low, high⟩ : 97 ≤ c.toNat ∧ c.toNat ≤ 122 := by
      simpa [UInt32.le_iff_toNat_le] using small
    have point : (c.toNat + 4294967264) % 4294967296 = 10 := by
      simpa using congrArg Char.toNat h
    omega
  · exact h

theorem eq_of_lineFeed_mem_upperChar {c : Char} (h : '\n' ∈ upperChar c) : c = '\n' := by
  rw [upperChar] at h
  split at h
  · exact eq_of_toUpper_eq_lineFeed (List.mem_singleton.mp h).symm
  · exact eq_of_lineFeed_mem_mapChar (by decide +kernel) (by decide +kernel) h

theorem eq_of_lineFeed_mem_lowerChar {c : Char} (h : '\n' ∈ lowerChar c) : c = '\n' := by
  rw [lowerChar] at h
  split at h
  · exact (toLower_eq_iff (by decide) c).mp (List.mem_singleton.mp h).symm
  · exact eq_of_lineFeed_mem_mapChar (by decide +kernel) (by decide +kernel) h

theorem IsLine.upper {s : String} (h : IsLine s) : IsLine (upper s) := by
  intro feed
  rw [Text.upper, String.toList_ofList, List.mem_flatMap] at feed
  obtain ⟨c, hc, mapped⟩ := feed
  exact h (eq_of_lineFeed_mem_upperChar mapped ▸ hc)

theorem lineFeed_mem_of_lowerAfter {before cs : List Char} (h : '\n' ∈ lowerAfter before cs) :
    '\n' ∈ cs := by
  induction cs generalizing before with
  | nil => cases h
  | cons c cs ih =>
    rw [lowerAfter, List.mem_append] at h
    cases h with
    | inl here =>
      split at here
      · -- Both small sigmas are letters.
        rw [List.mem_singleton, lowerSigma] at here
        split at here <;> cases here
      · rw [eq_of_lineFeed_mem_lowerChar here]
        exact List.mem_cons_self
    | inr later => exact List.mem_cons_of_mem _ (ih later)

theorem IsLine.lower {s : String} (h : IsLine s) : IsLine (lower s) := by
  intro feed
  rw [Text.lower, String.toList_ofList] at feed
  exact h (lineFeed_mem_of_lowerAfter feed)

/-! ## Lines that are joined -/

theorem lines_of_isLine {s : String} (line : IsLine s) (some : s ≠ "") : lines s = [s] := by
  have single := pieces_of_not_mem line
  have visible : s.toList ≠ [] := fun none => some (String.toList_eq_nil_iff.mp none)
  rw [lines, single]
  simp [visible]

theorem lines_lineFeed_of_isLine {s : String} (line : IsLine s)
    (ends : s.toList.getLast? ≠ some '\r') : lines (s ++ "\n") = [s] := by
  rw [lines_append_lineFeed, pieces_of_not_mem line]
  simp [dropReturn, ends]

/-- Lines that are joined by line feeds are the lines of the text. -/
theorem lines_intercalate {ls : List String} (line : ∀ l ∈ ls, IsLine l) (some : ∀ l ∈ ls, l ≠ "")
    (ends : ∀ l ∈ ls, l.toList.getLast? ≠ Option.some '\r') :
    lines ("\n".intercalate ls) = ls := by
  induction ls with
  | nil => rfl
  | cons l ls ih =>
    rw [List.forall_mem_cons] at line some ends
    cases ls with
    | nil => exact lines_of_isLine line.1 some.1
    | cons l' ls =>
      rw [String.intercalate_cons_cons, lines_append, lines_lineFeed_of_isLine line.1 ends.1,
        ih line.2 some.2 ends.2]
      rfl

/-- Lines with a line feed behind each of them are the lines of the text. -/
theorem lines_join_ended {ls : List String} (line : ∀ l ∈ ls, IsLine l)
    (ends : ∀ l ∈ ls, l.toList.getLast? ≠ some '\r') :
    lines (String.join (ls.map (· ++ "\n"))) = ls := by
  induction ls with
  | nil => rfl
  | cons l ls ih =>
    rw [List.forall_mem_cons] at line ends
    rw [List.map_cons, String.join_cons, lines_append, lines_lineFeed_of_isLine line.1 ends.1,
      ih line.2 ends.2, List.singleton_append]

end LayeredScene.Text
