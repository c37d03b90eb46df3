import LayeredScene.Statement.Command
import LayeredScene.Proofs.Text.WholeNumbers
import Mathlib.Data.List.TakeWhile

/-! # What is a measurement

A measurement is a number and a unit, and a token is one in at most one way: the number is its
longest run of digits and dots from the start, since no unit begins with either of these.  Where
only a length is wanted, the unit is the first of them, in their order, that follows the number, and
what follows the unit is passed over.
-/

namespace LayeredScene

/-! ## Numbers -/

/-- Digits and dots, with at least one digit and at most one dot. -/
structure IsNumber (d : List Char) : Prop where
  numeric : ∀ c ∈ d, c.isDigit ∨ c = '.'
  digit : ∃ c ∈ d, c.isDigit
  dots : d.count '.' ≤ 1

/-- The double that digits spell with a point among them or without one: their number, divided by a
    power of ten with as many zeros as there are digits behind the point. -/
inductive Spells : List Char → Float → Prop where
  | whole {ds : List Char} : (∀ c ∈ ds, c.isDigit) → ds ≠ [] →
      Spells ds (Float.ofScientific (Nat.ofDigitChars 10 ds 0) true 0)
  | point {ws fs : List Char} : (∀ c ∈ ws, c.isDigit) → (∀ c ∈ fs, c.isDigit) → ws ++ fs ≠ [] →
      Spells (ws ++ '.' :: fs)
        (Float.ofScientific (Nat.ofDigitChars 10 (ws ++ fs) 0) true fs.length)

section

variable {d : List Char} {x : Float}

theorem dot_notMem (digits : ∀ c ∈ d, c.isDigit) : '.' ∉ d :=
  fun dot => absurd (digits _ dot) (by decide)

theorem ne_dot (digits : ∀ c ∈ d, c.isDigit) : ∀ c ∈ d, (c != '.') = true := by
  intro c hc
  rw [bne_iff_ne]
  rintro rfl
  exact dot_notMem digits hc

theorem Spells.isNumber (spells : Spells d x) : IsNumber d := by
  cases spells with
  | whole digits some =>
    obtain ⟨c, hc⟩ := List.exists_mem_of_ne_nil _ some
    refine ⟨fun c hc => .inl (digits c hc), ⟨c, hc, digits c hc⟩, ?_⟩
    rw [List.count_eq_zero.mpr (dot_notMem digits)]
    exact Nat.zero_le 1
  | @point ws fs whole fraction some =>
    obtain ⟨c, hc⟩ := List.exists_mem_of_ne_nil _ some
    have digit : ∃ c ∈ ws ++ '.' :: fs, c.isDigit := by
      rcases List.mem_append.mp hc with hc | hc
      · exact ⟨c, by simp [hc], whole c hc⟩
      · exact ⟨c, by simp [hc], fraction c hc⟩
    refine ⟨fun c hc => ?_, digit, ?_⟩
    · rcases List.mem_append.mp hc with hc | _ | ⟨_, hc⟩
      · exact .inl (whole c hc)
      · exact .inr rfl
      · exact .inl (fraction c hc)
    · simp [List.count_eq_zero.mpr (dot_notMem whole), List.count_eq_zero.mpr (dot_notMem fraction)]

theorem IsNumber.exists_spells (number : IsNumber d) : ∃ x, Spells d x := by
  obtain ⟨c, hc, digit⟩ := number.digit
  by_cases dot : '.' ∈ d
  · obtain ⟨ws, fs, rfl⟩ := List.append_of_mem dot
    -- There is no other dot, on either side.
    have dots := number.dots
    rw [List.count_append, List.count_cons_self] at dots
    have noneBefore : '.' ∉ ws := List.count_eq_zero.mp (by omega)
    have noneBehind : '.' ∉ fs := List.count_eq_zero.mp (by omega)
    have whole : ∀ c ∈ ws, c.isDigit := fun c hc =>
      (number.numeric c (by simp [hc])).resolve_right fun same => noneBefore (same ▸ hc)
    have fraction : ∀ c ∈ fs, c.isDigit := fun c hc =>
      (number.numeric c (by simp [hc])).resolve_right fun same => noneBehind (same ▸ hc)
    refine ⟨_, .point whole fraction fun empty => ?_⟩
    obtain ⟨rfl, rfl⟩ := List.append_eq_nil_iff.mp empty
    obtain rfl := List.mem_singleton.mp hc
    cases digit
  · have digits : ∀ c ∈ d, c.isDigit := fun c hc =>
      (number.numeric c hc).resolve_right fun same => dot (same ▸ hc)
    exact ⟨_, .whole digits (List.ne_nil_of_mem hc)⟩

theorem Spells.number?_eq (spells : Spells d x) : Measurement.number? d = some x := by
  cases spells with
  | whole digits some =>
    have noDot := dot_notMem digits
    have behind : d.dropWhile (· != '.') = [] := List.dropWhile_eq_nil_iff.mpr (ne_dot digits)
    simp [Measurement.number?, List.filter_eq_self.mpr digits, some, List.count_eq_zero.mpr noDot,
      Text.foldl_digits, behind]
  | @point ws fs whole fraction some =>
    have behind : (ws ++ '.' :: fs).dropWhile (· != '.') = '.' :: fs := by
      rw [List.dropWhile_append_of_pos (ne_dot whole)]
      rfl
    have digits : (ws ++ '.' :: fs).filter Char.isDigit = ws ++ fs := by
      simp [List.filter_eq_self.mpr whole, List.filter_eq_self.mpr fraction]
    have dots : ¬ 1 < (ws ++ '.' :: fs).count '.' := by
      simp [List.count_eq_zero.mpr (dot_notMem whole), List.count_eq_zero.mpr (dot_notMem fraction)]
    simp only [Measurement.number?, digits, dots, behind, Text.foldl_digits, List.isEmpty_iff, some,
      or_self, if_false, List.drop_succ_cons, List.drop_zero]

theorem Spells.unique {y : Float} (spells : Spells d x) (spells' : Spells d y) : x = y :=
  Option.some.inj (spells.number?_eq.symm.trans spells'.number?_eq)

theorem isNumber_iff : IsNumber d ↔ ∃! x, Spells d x := by
  constructor
  · intro number
    obtain ⟨x, spells⟩ := number.exists_spells
    exact ⟨x, spells, fun y spells' => spells'.unique spells⟩
  · rintro ⟨x, spells, -⟩
    exact spells.isNumber

/-- Of digits and dots, those that make a number are read as what they spell. -/
theorem number?_eq_some_iff (numeric : ∀ c ∈ d, c.isDigit ∨ c = '.') :
    Measurement.number? d = some x ↔ Spells d x := by
  refine ⟨fun read => ?_, Spells.number?_eq⟩
  have number : IsNumber d := by
    simp only [Measurement.number?] at read
    split at read
    · cases read
    · next h =>
      obtain ⟨some, dots⟩ := not_or.mp h
      obtain ⟨c, hc⟩ := List.exists_mem_of_ne_nil _ (mt List.isEmpty_iff.mpr some)
      obtain ⟨hc, digit⟩ := List.mem_filter.mp hc
      exact ⟨numeric, ⟨c, hc, digit⟩, Nat.not_lt.mp dots⟩
  obtain ⟨y, spells⟩ := number.exists_spells
  rw [spells.number?_eq] at read
  exact Option.some.inj read ▸ spells

end

/-! ## Units -/

/-- A text begins with this unit, and with none that is looked for before it. -/
def FirstUnit (unit : LengthUnit) (cs : List Char) : Prop :=
  unit.suffix.toList <+: cs ∧ ∃ before after, LengthUnit.all = before ++ unit :: after ∧
    ∀ other ∈ before, ¬ other.suffix.toList <+: cs

theorem find?_eq_some_iff_firstUnit {unit : LengthUnit} {cs : List Char} :
    LengthUnit.all.find? (·.suffix.toList.isPrefixOf cs) = some unit ↔ FirstUnit unit cs := by
  simp [List.find?_eq_some_iff_append, FirstUnit, ← List.isPrefixOf_iff_prefix]

theorem cut?_eq_some_iff {unit : LengthUnit} {cs rest : List Char} :
    LengthUnit.cut? cs = some (unit, rest) ↔
      FirstUnit unit cs ∧ cs = unit.suffix.toList ++ rest := by
  simp only [LengthUnit.cut?, Option.map_eq_some_iff, find?_eq_some_iff_firstUnit, Prod.mk.injEq]
  constructor
  · rintro ⟨unit, first, rfl, rfl⟩
    obtain ⟨rest, rfl⟩ := first.1
    rw [← String.length_toList, List.drop_left]
    exact ⟨first, rfl⟩
  · rintro ⟨first, rfl⟩
    refine ⟨unit, first, rfl, ?_⟩
    rw [← String.length_toList, List.drop_left]

/-- By itself every unit is the first one. -/
theorem firstUnit_suffix (unit : LengthUnit) : FirstUnit unit unit.suffix.toList := by
  rw [← find?_eq_some_iff_firstUnit]
  cases unit <;> decide

theorem exists_firstUnit {unit : LengthUnit} {cs : List Char} (start : unit.suffix.toList <+: cs) :
    ∃ first, FirstUnit first cs := by
  simp only [← find?_eq_some_iff_firstUnit, ← Option.isSome_iff_exists, List.find?_isSome]
  exact ⟨unit, by cases unit <;> decide, List.isPrefixOf_iff_prefix.mpr start⟩

theorem suffix_injective {u v : LengthUnit} (h : u.suffix.toList = v.suffix.toList) : u = v := by
  revert h
  cases u <;> cases v <;> decide

/-- No unit begins with a digit or a dot. -/
theorem head_of_unit {unit : LengthUnit} {cs : List Char} (start : unit.suffix.toList <+: cs) :
    ∀ c ∈ cs.head?, ¬ (c.isDigit ∨ c = '.') := by
  obtain ⟨rest, rfl⟩ := start
  cases unit <;> simp [LengthUnit.suffix]

/-! ## Runs -/

/-- A text begins with a run of digits and dots that cannot be longer. -/
structure LeadingRun (d rest word : List Char) : Prop where
  split : word = d ++ rest
  numeric : ∀ c ∈ d, c.isDigit ∨ c = '.'
  stop : ∀ c ∈ rest.head?, ¬ (c.isDigit ∨ c = '.')

section

variable {d rest word : List Char}

theorem isNumeric_iff {c : Char} : Measurement.isNumeric c ↔ c.isDigit ∨ c = '.' := by
  simp [Measurement.isNumeric]

theorem LeadingRun.takeWhile_eq (run : LeadingRun d rest word) :
    word.takeWhile Measurement.isNumeric = d ∧ word.dropWhile Measurement.isNumeric = rest := by
  have numeric : ∀ c ∈ d, Measurement.isNumeric c := fun c hc =>
    isNumeric_iff.mpr (run.numeric c hc)
  rw [run.split, List.takeWhile_append_of_pos numeric, List.dropWhile_append_of_pos numeric]
  cases rest with
  | nil => simp
  | cons c rest =>
    have stop := mt isNumeric_iff.mp (run.stop c rfl)
    simp [stop]

theorem LeadingRun.unique {d' rest' : List Char} (run : LeadingRun d rest word)
    (run' : LeadingRun d' rest' word) : d = d' ∧ rest = rest' := by
  obtain ⟨number, behind⟩ := run.takeWhile_eq
  obtain ⟨number', behind'⟩ := run'.takeWhile_eq
  exact ⟨number.symm.trans number', behind.symm.trans behind'⟩

theorem leadingRun (word : List Char) : LeadingRun (word.takeWhile Measurement.isNumeric)
    (word.dropWhile Measurement.isNumeric) word where
  split := List.takeWhile_append_dropWhile.symm
  numeric c hc := isNumeric_iff.mp (List.mem_takeWhile_imp hc)
  stop c hc := by
    have stopped := List.head?_dropWhile_not Measurement.isNumeric word
    rw [Option.mem_def.mp hc] at stopped
    rw [← isNumeric_iff]
    exact Bool.eq_false_iff.mp stopped

/-- What begins with a number and a unit has the number for its run. -/
theorem LeadingRun.of_unit {unit : LengthUnit} (number : IsNumber d)
    (start : unit.suffix.toList <+: rest) : LeadingRun d rest (d ++ rest) :=
  ⟨rfl, number.numeric, head_of_unit start⟩

theorem LeadingRun.scan?_eq_some_iff (run : LeadingRun d rest word) {m : Measurement} :
    Measurement.scan? word = some m ↔
      Spells d m.value ∧ FirstUnit m.unit rest ∧ rest = m.unit.suffix.toList ++ m.rest := by
  obtain ⟨number, behind⟩ := run.takeWhile_eq
  simp only [Measurement.scan?, number, behind, Option.bind_eq_bind, Option.bind_eq_some_iff,
    number?_eq_some_iff run.numeric, Option.pure_def, Option.some.injEq, Prod.exists,
    cut?_eq_some_iff]
  constructor
  · rintro ⟨x, spells, unit, rest, ⟨first, split⟩, rfl⟩
    exact ⟨spells, first, split⟩
  · rintro ⟨spells, first, split⟩
    exact ⟨m.value, spells, m.unit, m.rest, ⟨first, split⟩, rfl⟩

end

/-! ## Tokens -/

section

variable {token : String} {d rest tail : List Char} {x : Float} {unit : LengthUnit}

theorem isLength_iff_scan : isLength token ↔
    ∃ m, Measurement.scan? (Text.lower token).toList = some m ∧ m.rest = [] := by
  simp [isLength, Option.any_eq_true]

theorem isLength_iff : isLength token ↔ ∃ d, ∃ unit : LengthUnit,
    IsNumber d ∧ (Text.lower token).toList = d ++ unit.suffix.toList := by
  rw [isLength_iff_scan]
  constructor
  · rintro ⟨m, scanned, whole⟩
    obtain ⟨spells, -, behind⟩ := (leadingRun _).scan?_eq_some_iff.mp scanned
    rw [whole, List.append_nil] at behind
    refine ⟨_, m.unit, spells.isNumber, ?_⟩
    rw [← behind]
    exact (leadingRun _).split
  · rintro ⟨d, unit, number, word⟩
    obtain ⟨x, spells⟩ := number.exists_spells
    have run := LeadingRun.of_unit number (List.prefix_refl unit.suffix.toList)
    rw [← word] at run
    refine ⟨⟨x, unit, []⟩, run.scan?_eq_some_iff.mpr ⟨spells, firstUnit_suffix unit, ?_⟩, rfl⟩
    exact (List.append_nil _).symm

theorem LeadingRun.lengthOf_eq (run : LeadingRun d rest (Text.lower token).toList)
    (spells : Spells d x) (first : FirstUnit unit rest) : lengthOf token = x * unit.meters := by
  obtain ⟨tail, behind⟩ := first.1
  have scanned : Measurement.scan? (Text.lower token).toList = some ⟨x, unit, tail⟩ :=
    run.scan?_eq_some_iff.mpr ⟨spells, first, behind.symm⟩
  rw [lengthOf, scanned]
  rfl

theorem LeadingRun.lengthOf_eq_fallback (run : LeadingRun d rest (Text.lower token).toList)
    (none : ¬ IsNumber d ∨ ¬ ∃ unit, FirstUnit unit rest) : lengthOf token = 1 := by
  have scanned : Measurement.scan? (Text.lower token).toList = Option.none := by
    rw [Option.eq_none_iff_forall_ne_some]
    intro m scanned
    obtain ⟨spells, first, -⟩ := run.scan?_eq_some_iff.mp scanned
    rcases none with noNumber | noUnit
    · exact noNumber spells.isNumber
    · exact noUnit ⟨_, first⟩
  rw [lengthOf, scanned]
  rfl

/-- A number and a unit are those that they are joined from. -/
theorem IsNumber.append_suffix_inj {d₁ d₂ : List Char} {u₁ u₂ : LengthUnit} (n₁ : IsNumber d₁)
    (n₂ : IsNumber d₂) (same : d₁ ++ u₁.suffix.toList = d₂ ++ u₂.suffix.toList) :
    d₁ = d₂ ∧ u₁ = u₂ := by
  have run₁ := LeadingRun.of_unit n₁ (List.prefix_refl u₁.suffix.toList)
  have run₂ := LeadingRun.of_unit n₂ (List.prefix_refl u₂.suffix.toList)
  obtain ⟨sameNumber, sameRest⟩ := (same ▸ run₁).unique run₂
  exact ⟨sameNumber, suffix_injective sameRest⟩

end

/-- The argument of a diameter is a length, whether it is a measurement or not. -/
theorem ofToken_diameter {key : String} (isDiameter : Text.lower key = "diameter")
    (token : String) :
    Command.ofToken key (some token) = ⟨.note "diameter" (.length (lengthOf token)), true⟩ := by
  have noShape : Shape.ofKeyword? "diameter" = none := by decide
  have noDirection : Direction.ofWord? "diameter" = none := by decide
  have noMaterial : Material.ofWord? "diameter" = none := by decide
  have noLength : isLength "diameter" = false := by decide +kernel
  simp [Command.ofToken, isDiameter, noShape, noDirection, noMaterial, noLength, Command.note?]

/-- What a token is as a measurement, and the length that stands for it, in terms of its lower-case
    word. -/
structure Measured (token : String) (word : List Char) : Prop where
  units : LengthUnit.all.map (fun unit => (unit.suffix, unit.meters)) =
    [("mm", 0.001), ("cm", 0.01), ("m", 1), ("inch", 0.0254), ("foot", 0.3048)]
  strict : isLength token ↔ ∃ d, ∃ unit : LengthUnit,
    IsNumber d ∧ word = d ++ unit.suffix.toList
  unique : ∀ d₁ d₂, ∀ u₁ u₂ : LengthUnit, IsNumber d₁ → IsNumber d₂ →
    word = d₁ ++ u₁.suffix.toList → word = d₂ ++ u₂.suffix.toList → d₁ = d₂ ∧ u₁ = u₂
  run : ∃ d rest, LeadingRun d rest word ∧
    ∀ d' rest', LeadingRun d' rest' word → d' = d ∧ rest' = rest
  value : ∀ d, IsNumber d ↔ ∃! x, Spells d x
  length : ∀ d rest x unit, LeadingRun d rest word → Spells d x → FirstUnit unit rest →
    lengthOf token = x * unit.meters
  /-- In all other cases the length is one meter. -/
  fallback : ∀ d rest, LeadingRun d rest word → (¬ IsNumber d ∨ ¬ ∃ unit, FirstUnit unit rest) →
    lengthOf token = 1
  /-- A measurement has the length that it says. -/
  agree : ∀ d x, ∀ unit : LengthUnit, Spells d x → word = d ++ unit.suffix.toList →
    isLength token ∧ lengthOf token = x * unit.meters
  /-- A diameter has its number from the start of the argument, whatever follows the unit. -/
  diameter : ∀ d x, ∀ unit : LengthUnit, ∀ tail, Spells d x →
    word = d ++ unit.suffix.toList ++ tail →
    ∃ first, FirstUnit first (unit.suffix.toList ++ tail) ∧
      ∀ key, Text.lower key = "diameter" →
        Command.ofToken key (some token) =
          ⟨.note "diameter" (.length (x * first.meters)), true⟩

/-- A token is a measurement if it is spelled as one, and its length is that of the measurement at
    its start. -/
theorem measured (token : String) : Measured token (Text.lower token).toList where
  units := rfl
  strict := isLength_iff
  unique d₁ d₂ u₁ u₂ n₁ n₂ split₁ split₂ := n₁.append_suffix_inj n₂ (split₁.symm.trans split₂)
  run := ⟨_, _, leadingRun _, fun _ _ run => run.unique (leadingRun _)⟩
  value d := isNumber_iff
  length d rest x unit run spells first := run.lengthOf_eq spells first
  fallback d rest run none := run.lengthOf_eq_fallback none
  agree d x unit spells word := by
    have run := LeadingRun.of_unit spells.isNumber (List.prefix_refl unit.suffix.toList)
    rw [← word] at run
    exact ⟨isLength_iff.mpr ⟨d, unit, spells.isNumber, word⟩,
      run.lengthOf_eq spells (firstUnit_suffix unit)⟩
  diameter d x unit tail spells word := by
    have start : unit.suffix.toList <+: unit.suffix.toList ++ tail := List.prefix_append _ _
    obtain ⟨first, isFirst⟩ := exists_firstUnit start
    have run := LeadingRun.of_unit spells.isNumber start
    rw [← List.append_assoc, ← word] at run
    refine ⟨first, isFirst, fun key isDiameter => ?_⟩
    rw [ofToken_diameter isDiameter, run.lengthOf_eq spells isFirst]

/-- Nothing may follow the unit, and a number has a digit and one dot at most. -/
example : isLength "1.5CM" ∧ ¬ isLength "1.5cmx" ∧ ¬ isLength "1.5.cm" ∧ ¬ isLength "inch" := by
  decide +kernel

end LayeredScene
