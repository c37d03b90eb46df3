import LayeredScene.Proofs.Traversal
import LayeredScene.Proofs.Text.Lines
import LayeredScene.Text.WholeNumber
import LayeredScene.Text.Case

/-! # Texts that differ only in letter case

Two texts differ only in the case of ASCII letters if lowering those letters makes them one text.
What is asked of characters here, whether they are blank, separators, digits or cased, has the same
answer for both cases of a letter; so lowering the letters commutes with trimming a text and with
cutting it into lines, segments and words, and it does not change the upper and the lower case of a
text.
-/

namespace LayeredScene.Text

/-- The texts are the same except for the case of ASCII letters. -/
def SameButCase (s t : String) : Prop :=
  List.Forall₂ (fun c d => c.toLower = d.toLower) s.toList t.toList

@[simp] theorem toList_lowerAscii (s : String) :
    (lowerAscii s).toList = s.toList.map Char.toLower :=
  String.toList_ofList

theorem lowerAscii_ofList (cs : List Char) :
    lowerAscii (String.ofList cs) = String.ofList (cs.map Char.toLower) := by
  rw [lowerAscii, String.toList_ofList]

theorem sameButCase_iff {s t : String} : SameButCase s t ↔ lowerAscii s = lowerAscii t := by
  rw [SameButCase, lowerAscii, lowerAscii, String.ofList_inj, map_eq_map_iff_forall₂]

/-! ## Characters -/

/-- The capital letters of ASCII. -/
def capitals : List Char := (List.range 26).map fun i => Char.ofNat ('A'.toNat + i)

theorem toLower_eq_or_mem_capitals (c : Char) : c.toLower = c ∨ c ∈ capitals := by
  rw [Char.toLower]
  split
  · next capital =>
    obtain ⟨low, high⟩ : 65 ≤ c.toNat ∧ c.toNat ≤ 90 := by
      simpa [UInt32.le_iff_toNat_le] using capital
    refine .inr (List.mem_map.mpr ⟨c.toNat - 65, List.mem_range.mpr (by omega), ?_⟩)
    change Char.ofNat (65 + (c.toNat - 65)) = c
    rw [Nat.add_sub_cancel' low, Char.ofNat_toNat]
  · exact .inl rfl

/-- What takes the same value at a capital as at its small letter does not see the case. -/
theorem toLower_of_capitals {α : Type} [DecidableEq α] {f : Char → α}
    (same : capitals.all fun c => f c.toLower = f c) (c : Char) : f c.toLower = f c := by
  obtain unchanged | capital := toLower_eq_or_mem_capitals c
  · rw [unchanged]
  · exact of_decide_eq_true (List.all_eq_true.mp same c capital)

@[simp] theorem isBlank_toLower (c : Char) : isBlank c.toLower = isBlank c :=
  toLower_of_capitals (by decide) c

@[simp] theorem isDigit_toLower (c : Char) : c.toLower.isDigit = c.isDigit :=
  toLower_of_capitals (by decide) c

@[simp] theorem isIgnorable_toLower (c : Char) : isIgnorable c.toLower = isIgnorable c :=
  toLower_of_capitals (by decide +kernel) c

@[simp] theorem inRanges_casedRanges_toLower (c : Char) :
    inRanges casedRanges c.toLower = inRanges casedRanges c :=
  toLower_of_capitals (by decide) c

@[simp] theorem upperChar_toLower (c : Char) : upperChar c.toLower = upperChar c :=
  toLower_of_capitals (by decide) c

@[simp] theorem lowerChar_toLower (c : Char) : lowerChar c.toLower = lowerChar c :=
  toLower_of_capitals (by decide) c

/-- A character that is no letter is not confused with one by lowering letters. -/
theorem toLower_eq_iff {d : Char} (other : d.isAlpha = false) (c : Char) :
    c.toLower = d ↔ c = d := by
  have letters : capitals.all fun c => c.isAlpha && c.toLower.isAlpha := by decide
  obtain unchanged | capital := toLower_eq_or_mem_capitals c
  · rw [unchanged]
  · obtain ⟨upper, lower⟩ := Bool.and_eq_true_iff.mp (List.all_eq_true.mp letters c capital)
    exact iff_of_false (fun h => by simp [h, other] at lower) fun h => by simp [h, other] at upper

theorem beq_toLower {d : Char} (other : d.isAlpha = false) (c : Char) :
    (c.toLower == d) = (c == d) := by
  rw [Bool.eq_iff_iff, beq_iff_eq, beq_iff_eq, toLower_eq_iff other]

theorem toLower_of_isDigit {c : Char} (digit : c.isDigit) : c.toLower = c := by
  have others : capitals.all fun c => !c.isDigit := by decide
  refine (toLower_eq_or_mem_capitals c).resolve_right fun capital => ?_
  simpa [digit] using List.all_eq_true.mp others c capital

/-! ## Cutting texts

These hold for every change of characters that leaves alone what is looked for. -/

section Cutting

variable {f : Char → Char}

theorem pieces_map {p : Char → Bool} (same : ∀ c, p (f c) = p c) (cs : List Char) :
    pieces p (cs.map f) = (pieces p cs).map (List.map f) := by
  induction cs with
  | nil => rfl
  | cons c cs ih =>
    rw [List.map_cons, pieces_cons, pieces_cons, same, ih]
    cases p c
    · cases pieces p cs <;> rfl
    · rfl

theorem dropWhile_map_of_same {p : Char → Bool} (same : ∀ c, p (f c) = p c) (cs : List Char) :
    (cs.map f).dropWhile p = (cs.dropWhile p).map f := by
  rw [List.dropWhile_map, show p ∘ f = p from funext same]

theorem trimChars_map (same : ∀ c, isBlank (f c) = isBlank c) (cs : List Char) :
    trimChars (cs.map f) = (trimChars cs).map f := by
  simp only [trimChars, dropWhile_map_of_same same, ← List.map_reverse]

theorem dropReturn_map (same : ∀ c, f c = '\r' ↔ c = '\r') (cs : List Char) :
    dropReturn (cs.map f) = (dropReturn cs).map f := by
  have last : (cs.map f).getLast? = some '\r' ↔ cs.getLast? = some '\r' := by
    simp [List.getLast?_map, same]
  rw [dropReturn, dropReturn, if_congr last rfl rfl, ← List.map_dropLast, apply_ite (List.map f)]

end Cutting

theorem trim_lowerAscii (s : String) : trim (lowerAscii s) = lowerAscii (trim s) := by
  rw [trim, toList_lowerAscii, trimChars_map isBlank_toLower, trim, lowerAscii_ofList]

theorem words_lowerAscii (s : String) : words (lowerAscii s) = (words s).map lowerAscii := by
  simp [words, pieces_map isBlank_toLower, List.filter_map, Function.comp_def, lowerAscii_ofList]

theorem split_lowerAscii {sep : Char} (other : sep.isAlpha = false) (s : String) :
    split sep (lowerAscii s) = (split sep s).map lowerAscii := by
  have same := pieces_map (p := (· == sep)) (beq_toLower other) s.toList
  simp [split, same, Function.comp_def, lowerAscii_ofList]

theorem lines_lowerAscii (s : String) : lines (lowerAscii s) = (lines s).map lowerAscii := by
  have same := pieces_map (p := (· == '\n')) (beq_toLower (by decide)) s.toList
  have closed := dropReturn_map (toLower_eq_iff (by decide))
  simp only [lines, toList_lowerAscii, same, List.map_append, ← List.map_dropLast, List.map_map,
    List.getLast?_map, Function.comp_def, closed, lowerAscii_ofList]
  congr 1
  cases (pieces (· == '\n') s.toList).getLast? with
  | none => rfl
  | some p => cases p <;> rfl

/-! ## Upper and lower case -/

@[simp] theorem upper_lowerAscii (s : String) : upper (lowerAscii s) = upper s := by
  simp [upper, List.flatMap_map]

theorem startsCased_map (cs : List Char) : startsCased (cs.map Char.toLower) = startsCased cs := by
  simp only [startsCased, dropWhile_map_of_same isIgnorable_toLower]
  cases cs.dropWhile isIgnorable <;> simp

theorem lowerAfter_map (before cs : List Char) :
    lowerAfter (before.map Char.toLower) (cs.map Char.toLower) = lowerAfter before cs := by
  induction cs generalizing before with
  | nil => rfl
  | cons c cs ih =>
    have following := ih (c :: before)
    simp only [List.map_cons] at following
    simp only [List.map_cons, lowerAfter, lowerSigma, startsCased_map, lowerChar_toLower,
      following, toLower_eq_iff (by decide : 'Σ'.isAlpha = false)]

@[simp] theorem lower_lowerAscii (s : String) : lower (lowerAscii s) = lower s := by
  rw [lower, toList_lowerAscii]
  exact congrArg String.ofList (lowerAfter_map [] s.toList)

/-! ## Numbers -/

theorem digits?_map_toLower (cs : List Char) : digits? (cs.map Char.toLower) = digits? cs := by
  by_cases all : cs.all Char.isDigit
  · have unchanged : cs.map Char.toLower = cs :=
      (List.map_congr_left fun c hc => toLower_of_isDigit (List.all_eq_true.mp all c hc)).trans
        (List.map_id cs)
    rw [unchanged]
  · simp [digits?, List.all_map, Function.comp_def, all]

@[simp] theorem wholeNumber?_lowerAscii (bound : Nat) (s : String) :
    wholeNumber? bound (lowerAscii s) = wholeNumber? bound s := by
  have signed : (s.toList.map Char.toLower).head? = some '+' ↔ s.toList.head? = some '+' := by
    simp [List.head?_map, toLower_eq_iff (by decide : '+'.isAlpha = false)]
  simp only [wholeNumber?, toList_lowerAscii, signed, ← List.map_tail]
  rw [← apply_ite (List.map Char.toLower), digits?_map_toLower]

end LayeredScene.Text
