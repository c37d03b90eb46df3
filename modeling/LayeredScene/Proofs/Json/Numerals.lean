import LayeredScene.Proofs.Json.Grammar

/-! # The machine for numbers

It goes through the characters of a numeral: the whole digits, the fraction digits behind a point,
the exponent behind its mark.  Behind any spelling of a numeral it may stop, and the number it holds
is the numeral, digit by digit (`run?_spelled`).
-/

namespace LayeredScene

namespace NumberScan

/-- The number continued by characters, as long as it neither ends nor breaks off. -/
def run? (n : NumberScan) : List Char → Option NumberScan
  | [] => some n
  | c :: cs =>
    match n.step c with
    | .more n => n.run? cs
    | _ => none

def signed (negative : Bool) : NumberScan := ⟨negative, 0, [], false, 0, .minus⟩

theorem run?_append (n : NumberScan) (cs rest : List Char) :
    n.run? (cs ++ rest) = (n.run? cs).bind (·.run? rest) := by
  induction cs generalizing n with
  | nil => rfl
  | cons c cs ih =>
    simp only [List.cons_append, run?]
    cases n.step c with
    | more n => exact ih n
    | ended | broken => rfl

/-! ## Digits -/

theorem digit?_digitChar (d : Fin 10) : digit? (digitChar d) = some d := by
  revert d
  decide

theorem digit?_natDigitChar {n : Nat} (h : n < 10) :
    digit? (Nat.digitChar n) = some ⟨n, h⟩ := by
  have all : ∀ d : Fin 10, digit? (Nat.digitChar d) = some d := by decide
  exact all ⟨n, h⟩

/-- The digits of a number without a fraction. -/
theorem run?_wholeDigits (negative : Bool) (n : Nat) :
    (signed negative).run? (Nat.toDigits 10 n) =
      some ⟨negative, n, [], false, 0, if n = 0 then .zero else .whole⟩ := by
  induction n using Nat.strongRecOn with
  | ind n ih =>
    -- The digits of a number are those of its tenth and the last one.
    by_cases single : n < 10
    · rw [Nat.toDigits_of_lt_base single]
      simp [run?, step, signed, first, digit?_natDigitChar single]
    · have lead : n / 10 ≠ 0 := by omega
      have last := digit?_natDigitChar (Nat.mod_lt n (by decide : 0 < 10))
      rw [Nat.toDigits_of_base_le (by decide) (by omega), run?_append, ih (n / 10) (by omega)]
      simp [run?, step, last, lead, show n ≠ 0 by omega, Nat.div_add_mod' n 10]

theorem run?_fractionDigits (negative : Bool) (whole : Nat) (before ds : List (Fin 10)) :
    run? ⟨negative, whole, before, false, 0, .fraction⟩ (ds.map digitChar) =
      some ⟨negative, whole, ds.reverse ++ before, false, 0, .fraction⟩ := by
  induction ds generalizing before with
  | nil => rfl
  | cons d ds ih =>
    simp only [List.map_cons, run?, step, digit?_digitChar]
    rw [ih (d :: before)]
    simp

theorem run?_exponent (negative : Bool) (whole : Nat) (fraction : List (Fin 10)) (down : Bool)
    (exponent : Nat) (ds : List (Fin 10)) :
    run? ⟨negative, whole, fraction, down, exponent, .exponent⟩ (ds.map digitChar) =
      some ⟨negative, whole, fraction, down, ds.foldl (fun n d => n * 10 + d.val) exponent,
        .exponent⟩ := by
  induction ds generalizing exponent with
  | nil => rfl
  | cons d ds ih =>
    simp only [List.map_cons, run?, step, digit?_digitChar, pushExponent]
    rw [ih, List.foldl_cons]

/-- The digits of an exponent, behind its mark or behind its sign. -/
theorem run?_exponentDigits {phase : NumberPhase} (marked : phase = .mark ∨ phase = .markSign)
    (negative : Bool) (whole : Nat) (fraction : List (Fin 10)) (down : Bool) {ds : List (Fin 10)}
    (nonempty : ds ≠ []) :
    run? ⟨negative, whole, fraction, down, 0, phase⟩ (ds.map digitChar) =
      some ⟨negative, whole, fraction, down, digitsValue ds, .exponent⟩ := by
  obtain ⟨d, ds, rfl⟩ := List.exists_cons_of_ne_nil nonempty
  have first : step ⟨negative, whole, fraction, down, 0, phase⟩ (digitChar d) =
      .more ⟨negative, whole, fraction, down, 0 * 10 + d.val, .exponent⟩ := by
    rcases marked with rfl | rfl <;> simp only [step, digit?_digitChar, pushExponent]
  simp only [List.map_cons, run?, first, run?_exponent]
  rfl

/-! ## Point and exponent -/

theorem step_point {phase : NumberPhase} (whole : phase = .zero ∨ phase = .whole) (negative : Bool)
    (n : Nat) :
    step ⟨negative, n, [], false, 0, phase⟩ '.' = .more ⟨negative, n, [], false, 0, .point⟩ := by
  rcases whole with rfl | rfl <;> rfl

/-- The fraction of a numeral with its point. -/
theorem run?_point {phase : NumberPhase} (whole : phase = .zero ∨ phase = .whole) (negative : Bool)
    (n : Nat) (d : Fin 10) (ds : List (Fin 10)) :
    run? ⟨negative, n, [], false, 0, phase⟩ ('.' :: (d :: ds).map digitChar) =
      some ⟨negative, n, (d :: ds).reverse, false, 0, .fraction⟩ := by
  have firstDigit : step ⟨negative, n, [], false, 0, .point⟩ (digitChar d) =
      .more ⟨negative, n, [d], false, 0, .fraction⟩ := by
    simp only [step, digit?_digitChar]
  rw [run?, step_point whole, List.map_cons]
  simp only [run?, firstDigit, run?_fractionDigits, List.reverse_cons]

theorem run?_spelledPower {phase : NumberPhase}
    (ended : phase = .zero ∨ phase = .whole ∨ phase = .fraction) (negative : Bool) (n : Nat)
    (fraction : List (Fin 10)) {e : Int} {cs : List Char}
    (spelled : Numeral.SpellsPower (some e) cs) :
    ∃ down exponent, e = (if down then -(exponent : Int) else exponent) ∧
      run? ⟨negative, n, fraction, false, 0, phase⟩ cs =
        some ⟨negative, n, fraction, down, exponent, .exponent⟩ := by
  obtain ⟨mark, down, sign, ds, marks, signs, nonempty, rfl, rfl⟩ := spelled
  have marked : step ⟨negative, n, fraction, false, 0, phase⟩ mark =
      .more ⟨negative, n, fraction, false, 0, .mark⟩ := by
    rcases marks with rfl | rfl <;> rcases ended with rfl | rfl | rfl <;> rfl
  refine ⟨down, digitsValue ds, rfl, ?_⟩
  rw [List.cons_append, run?, marked]
  cases down with
  | true =>
    obtain rfl : sign = ['-'] := signs
    exact run?_exponentDigits (.inr rfl) negative n fraction true nonempty
  | false =>
    obtain rfl | rfl : sign = [] ∨ sign = ['+'] := signs
    · exact run?_exponentDigits (.inl rfl) negative n fraction false nonempty
    · exact run?_exponentDigits (.inr rfl) negative n fraction false nonempty

/-! ## Whole numerals -/

/-- The state behind the digits of a number without its exponent. -/
theorem run?_unscaled (negative : Bool) (whole : Nat) (fraction : List (Fin 10)) :
    ∃ phase, (phase = .zero ∨ phase = .whole ∨ phase = .fraction) ∧
      (signed negative).run? (Nat.toDigits 10 whole ++
          (if fraction.isEmpty then [] else '.' :: fraction.map digitChar)) =
        some ⟨negative, whole, fraction.reverse, false, 0, phase⟩ := by
  -- The state after the whole digits, and then after the fraction if there is one.
  obtain ⟨phase, start, run⟩ : ∃ phase, (phase = .zero ∨ phase = .whole) ∧
      (signed negative).run? (Nat.toDigits 10 whole) =
        some ⟨negative, whole, [], false, 0, phase⟩ :=
    ⟨_, by split <;> simp, run?_wholeDigits negative whole⟩
  cases fraction with
  | nil => exact ⟨phase, start.imp_right .inl, by simpa using run⟩
  | cons d ds =>
    refine ⟨.fraction, .inr (.inr rfl), ?_⟩
    rw [run?_append, run, Option.bind_some]
    exact run?_point start negative whole d ds

/-- Behind any spelling of a numeral the machine may stop, and then it has read that numeral. -/
theorem run?_spelled {n : Numeral} {cs : List Char} (spelled : n.Spells cs) :
    ∃ size scan, cs = (if n.negative then ['-'] else []) ++ size ∧
      (signed n.negative).run? size = some scan ∧ scan.complete ∧ scan.numeral = n := by
  obtain ⟨negative, whole, fraction, exponent⟩ := n
  obtain ⟨power, powers, rfl⟩ := spelled
  obtain ⟨phase, ended, run⟩ := run?_unscaled negative whole fraction
  cases exponent with
  | none =>
    obtain rfl : power = [] := powers
    refine ⟨_, _, rfl, by rwa [List.append_nil], ?_, ?_⟩
    · rcases ended with rfl | rfl | rfl <;> rfl
    · rcases ended with rfl | rfl | rfl <;> simp [numeral]
  | some e =>
    obtain ⟨down, exponent, rfl, scaled⟩ :=
      run?_spelledPower ended negative whole fraction.reverse powers
    refine ⟨_, ⟨negative, whole, fraction.reverse, down, exponent, .exponent⟩, rfl, ?_, rfl, ?_⟩
    · rw [run?_append, run, Option.bind_some, scaled]
    · simp [numeral]

end NumberScan

end LayeredScene
