import LayeredScene.Proofs.Json.Grammar

/-! # The machine for quoted strings

It goes through whatever spells a character and has then taken that character.  The escapes by code
are the only ones that take several steps with a value built up on the way (`run?_fourDigits`); a
whole string follows by induction on its spelling (`run?_spelled`).
-/

namespace LayeredScene

namespace TextScan

/-- The string continued by characters, as long as it neither ends nor breaks off. -/
def run? (t : TextScan) : List Char → Option TextScan
  | [] => some t
  | c :: cs =>
    match t.step c with
    | .more t => t.run? cs
    | _ => none

/-- A string that holds these characters, the last one first. -/
def holding (chars : List Char) : TextScan := ⟨chars, false, .plain⟩

theorem run?_append (t : TextScan) (cs rest : List Char) :
    t.run? (cs ++ rest) = (t.run? cs).bind (·.run? rest) := by
  induction cs generalizing t with
  | nil => rfl
  | cons c cs ih =>
    simp only [List.cons_append, run?]
    cases t.step c with
    | more t => exact ih t
    | done | broken => rfl

/-! ## Escapes by code -/

/-- The digits behind `\u` are taken together, after the first half of a pair or without one. -/
theorem run?_fourDigits {chars : List Char} {n : Nat} {digits : List Char} {lead : Option Nat}
    {t : TextScan} (code : FourDigits n digits)
    (taken : ∀ phase, unit ⟨chars, false, phase⟩ n lead = .more t) :
    run? ⟨chars, false, .hex 0 (some 0) lead⟩ digits = some t := by
  obtain ⟨a, b, c, d, a', b', c', d', rfl, ha, hb, hc, hd, rfl⟩ := code
  simp [run?, step, taken, hexValue?_eq_some_iff.mpr ha, hexValue?_eq_some_iff.mpr hb,
    hexValue?_eq_some_iff.mpr hc, hexValue?_eq_some_iff.mpr hd, utf8Size_of_hexDigit ha,
    utf8Size_of_hexDigit hb, utf8Size_of_hexDigit hc, utf8Size_of_hexDigit hd]

theorem run?_unitEscape (chars cs : List Char) :
    (holding chars).run? ('\\' :: 'u' :: cs) =
      run? ⟨chars, false, .hex 0 (some 0) none⟩ cs := rfl

theorem run?_unitEscape_lead (chars cs : List Char) (high : Nat) :
    run? ⟨chars, false, .lead high⟩ ('\\' :: 'u' :: cs) =
      run? ⟨chars, false, .hex 0 (some 0) (some high)⟩ cs := rfl

/-! ## Whole strings -/

theorem run?_spelled {s cs : List Char} (spelled : SpellsChars s cs) (chars : List Char) :
    (holding chars).run? cs = some (holding (s.reverse ++ chars)) := by
  induction spelled generalizing chars with
  | nil => rfl
  | @plain c s cs printable quote backslash rest ih =>
    have taken : (holding chars).step c = .more (holding (c :: chars)) := by
      simp [holding, step, TextScan.plain, push, quote, backslash, Nat.not_lt.mpr printable]
    rw [run?, taken]
    simpa using ih (c :: chars)
  | @escape letter c s cs short rest ih =>
    have taken : (holding chars).run? ['\\', letter] = some (holding (c :: chars)) := by
      simp only [shortEscapes, List.mem_cons, List.not_mem_nil, or_false, Prod.mk.injEq] at short
      rcases short with ⟨rfl, rfl⟩ | ⟨rfl, rfl⟩ | ⟨rfl, rfl⟩ | ⟨rfl, rfl⟩ | ⟨rfl, rfl⟩ |
        ⟨rfl, rfl⟩ | ⟨rfl, rfl⟩ | ⟨rfl, rfl⟩ <;> rfl
    rw [show '\\' :: letter :: cs = ['\\', letter] ++ cs from rfl, run?_append, taken,
      Option.bind_some, ih]
    simp
  | @unit c digits s cs code rest ih =>
    have scalar : ¬ (0xD800 ≤ c.toNat ∧ c.toNat < 0xDC00) ∧
        ¬ (0xDC00 ≤ c.toNat ∧ c.toNat < 0xE000) := by
      have valid : c.toNat < 0xD800 ∨ 0xDFFF < c.toNat ∧ c.toNat < 0x110000 := c.valid
      omega
    have taken : run? ⟨chars, false, .hex 0 (some 0) none⟩ digits = some (holding (c :: chars)) :=
      run?_fourDigits code fun phase => by simp [TextScan.unit, scalar, push, holding]
    rw [run?_unitEscape, run?_append, taken, Option.bind_some, ih]
    simp
  | @pair c high low highDigits lowDigits s cs lead trail code first second rest ih =>
    have char : Char.ofNat (0x10000 + (high - 0xD800) * 0x400 + (low - 0xDC00)) = c := by
      rw [← code, Char.ofNat_toNat]
    have half : run? ⟨chars, false, .hex 0 (some 0) none⟩ highDigits =
        some ⟨chars, false, .lead high⟩ :=
      run?_fourDigits first fun phase => by simp [TextScan.unit, lead]
    have taken : run? ⟨chars, false, .hex 0 (some 0) (some high)⟩ lowDigits =
        some (holding (c :: chars)) :=
      run?_fourDigits second fun phase => by simp [TextScan.unit, trail, push, holding, char]
    rw [run?_unitEscape, run?_append, half, Option.bind_some, run?_unitEscape_lead, run?_append,
      taken, Option.bind_some, ih]
    simp

theorem run?_between {s : String} {body : List Char} (spelled : SpellsChars s.toList body) :
    (holding []).run? body = some (holding s.toList.reverse) := by
  rw [run?_spelled spelled, List.append_nil]

theorem step_quote (s : String) :
    (holding s.toList.reverse).step '"' = .done (some s) := by
  simp [holding, step, plain]

end TextScan

end LayeredScene
