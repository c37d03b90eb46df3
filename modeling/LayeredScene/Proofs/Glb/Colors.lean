import LayeredScene.Glb.OfScene
import LayeredScene.Proofs.Text.HexDigits

/-! # Which texts are colours

A colour is read from three pairs of characters, behind a `#` or not.  A pair is meant to be two
hexadecimal digits, and all such texts are read as the numbers that the pairs spell.  But a plus
sign is taken for the first character of a pair too, and then the pair spells what its digit does:
there are texts that are read as colours and are none (`hexColor?_of_no_color`).
-/

namespace LayeredScene

/-- Two digits spell a number. -/
def TwoDigits (high low : Char) (n : Nat) : Prop :=
  ∃ h l, HexDigit high h ∧ HexDigit low l ∧ n = h * 16 + l

/-- A digit behind a plus sign spells a number. -/
def SignedDigit (high low : Char) (n : Nat) : Prop :=
  high = '+' ∧ HexDigit low n

/-- The text is three pairs, behind a `#` or not, that spell these numbers. -/
def SpelledBy (pair : Char → Char → Nat → Prop) (s : String) (r g b : Nat) : Prop :=
  ∃ r₁ r₀ g₁ g₀ b₁ b₀,
    (s.toList = [r₁, r₀, g₁, g₀, b₁, b₀] ∨ s.toList = ['#', r₁, r₀, g₁, g₀, b₁, b₀]) ∧
      pair r₁ r₀ r ∧ pair g₁ g₀ g ∧ pair b₁ b₀ b

/-- The colour with these components, each out of 255. -/
def colorOf (r g b : Nat) : Triple Float32 :=
  ⟨channelOf r, channelOf g, channelOf b⟩

theorem not_hexDigit_plus (n : Nat) : ¬ HexDigit '+' n := by
  rw [← hexValue?_eq_some_iff]
  exact nofun

theorem hexPair?_eq_some_iff {high low : Char} {n : Nat} :
    hexPair? high low = some n ↔ TwoDigits high low n ∨ SignedDigit high low n := by
  simp only [hexPair?, Option.bind_eq_bind, Option.bind_eq_some_iff, hexValue?_eq_some_iff,
    TwoDigits, SignedDigit]
  by_cases plus : high = '+'
  · subst plus
    simp [not_hexDigit_plus]
  · simp only [plus, if_false, Option.bind_eq_some_iff, hexValue?_eq_some_iff, Option.pure_def,
      Option.some.injEq, false_and, or_false]
    constructor
    · rintro ⟨l, hl, h, hh, rfl⟩
      exact ⟨h, l, hh, hl, rfl⟩
    · rintro ⟨h, l, hh, hl, rfl⟩
      exact ⟨l, hl, h, hh, rfl⟩

theorem hexPair?_hash (low : Char) : hexPair? '#' low = none := by
  simp [hexPair?, show TextScan.hexValue? '#' = none by rfl]

/-- A text is read as a colour exactly if its pairs can be read. -/
theorem hexColor?_eq_some_iff {s : String} {c : Triple Float32} : hexColor? s = some c ↔
    ∃ r g b, SpelledBy (fun high low n => hexPair? high low = some n) s r g b ∧
      c = colorOf r g b := by
  constructor
  · intro h
    simp only [hexColor?] at h
    split at h
    · next r₁ r₀ g₁ g₀ b₁ b₀ body =>
      simp only [Option.bind_eq_bind, Option.bind_eq_some_iff, Option.pure_def,
        Option.some.injEq] at h
      obtain ⟨r, hr, g, hg, b, hb, rfl⟩ := h
      refine ⟨r, g, b, ⟨r₁, r₀, g₁, g₀, b₁, b₀, ?_, hr, hg, hb⟩, rfl⟩
      split at body
      · next mark => exact .inr (body ▸ List.eq_cons_of_mem_head? mark)
      · exact .inl body
    · cases h
  · rintro ⟨r, g, b, ⟨r₁, r₀, g₁, g₀, b₁, b₀, text, hr, hg, hb⟩, rfl⟩
    have body : (if s.toList.head? = some '#' then s.toList.tail else s.toList) =
        [r₁, r₀, g₁, g₀, b₁, b₀] := by
      rcases text with text | text
      · -- No pair begins with the mark.
        have unmarked : r₁ ≠ '#' := by
          rintro rfl
          simp [hexPair?_hash] at hr
        simp [text, unmarked]
      · simp [text]
    simp only [hexColor?, body, hr, hg, hb, Option.bind_eq_bind, Option.bind_some, Option.pure_def]
    rfl

theorem SpelledBy.imp {p q : Char → Char → Nat → Prop} {s : String} {r g b : Nat}
    (h : SpelledBy p s r g b)
    (imp : ∀ high ∈ s.toList, ∀ low n, p high low n → q high low n) : SpelledBy q s r g b := by
  obtain ⟨r₁, r₀, g₁, g₀, b₁, b₀, text, hr, hg, hb⟩ := h
  have listed : ∀ high ∈ [r₁, g₁, b₁], high ∈ s.toList := by
    rcases text with text | text <;> simp [text]
  exact ⟨r₁, r₀, g₁, g₀, b₁, b₀, text, imp _ (listed _ (by simp)) _ _ hr,
    imp _ (listed _ (by simp)) _ _ hg, imp _ (listed _ (by simp)) _ _ hb⟩

theorem TwoDigits.ne_plus {high low : Char} {n : Nat} (h : TwoDigits high low n) :
    high ≠ '+' ∧ low ≠ '+' := by
  obtain ⟨h, l, high, low, -⟩ := h
  constructor <;> rintro rfl
  · exact not_hexDigit_plus h high
  · exact not_hexDigit_plus l low

theorem SpelledBy.plus_notMem {s : String} {r g b : Nat} (h : SpelledBy TwoDigits s r g b) :
    '+' ∉ s.toList := by
  obtain ⟨r₁, r₀, g₁, g₀, b₁, b₀, text, hr, hg, hb⟩ := h
  rcases text with text | text <;>
    simp [text, hr.ne_plus.1.symm, hr.ne_plus.2.symm, hg.ne_plus.1.symm, hg.ne_plus.2.symm,
      hb.ne_plus.1.symm, hb.ne_plus.2.symm]

/-- The text is read as a colour exactly if it is six digits, and then as what they spell. -/
def ReadByDigits (s : String) : Prop :=
  ∀ c, hexColor? s = some c ↔ ∃ r g b, SpelledBy TwoDigits s r g b ∧ c = colorOf r g b

/-- Six digits are always read. -/
theorem SpelledBy.hexColor?_eq {s : String} {r g b : Nat} (digits : SpelledBy TwoDigits s r g b) :
    hexColor? s = some (colorOf r g b) := by
  rw [hexColor?_eq_some_iff]
  exact ⟨r, g, b, digits.imp fun _ _ _ _ pair => hexPair?_eq_some_iff.mpr (.inl pair), rfl⟩

/-- Without a plus sign only digits are read. -/
theorem exists_digits_of_unsigned {s : String} {c : Triple Float32} (read : hexColor? s = some c)
    (unsigned : '+' ∉ s.toList) : ∃ r g b, SpelledBy TwoDigits s r g b ∧ c = colorOf r g b := by
  obtain ⟨r, g, b, spelled, rfl⟩ := hexColor?_eq_some_iff.mp read
  refine ⟨r, g, b, spelled.imp fun high listed low n pair => ?_, rfl⟩
  refine (hexPair?_eq_some_iff.mp pair).resolve_right ?_
  rintro ⟨rfl, -⟩
  exact unsigned listed

theorem readByDigits_iff {s : String} :
    ReadByDigits s ↔ hexColor? s = none ∨ '+' ∉ s.toList := by
  constructor
  · intro byDigits
    cases read : hexColor? s with
    | none => exact .inl rfl
    | some c =>
      obtain ⟨r, g, b, digits, -⟩ := (byDigits c).mp read
      exact .inr digits.plus_notMem
  · intro fine c
    constructor
    · intro read
      have unsigned : '+' ∉ s.toList := fine.resolve_left (by simp [read])
      exact exists_digits_of_unsigned read unsigned
    · rintro ⟨r, g, b, digits, rfl⟩
      exact digits.hexColor?_eq

/-- A text is read as a colour exactly if it is three pairs, behind a `#` or not, of two hexadecimal
    digits each or of a plus sign and one digit; the components are what the pairs spell, out of
    255.  So it is read by its digits only, unless it has a plus sign and is read nevertheless.  A
    material with a text that is not read is drawn in a medium grey. -/
theorem colors_of_texts (s : String) :
    (∀ c, hexColor? s = some c ↔
      ∃ r g b, SpelledBy (fun high low n => TwoDigits high low n ∨ SignedDigit high low n) s r g b ∧
        c = colorOf r g b) ∧
    (ReadByDigits s ↔ hexColor? s = none ∨ '+' ∉ s.toList) ∧
    (∀ m : SceneMaterial, m.color = s →
      (Gltf.materialOf m).color = (hexColor? s).getD (.splat 0.5)) := by
  refine ⟨fun c => ?_, readByDigits_iff, ?_⟩
  · simp only [← hexPair?_eq_some_iff]
    exact hexColor?_eq_some_iff
  · rintro m rfl
    rfl

/-- Three plus signs and three digits are read as a colour, and are not six digits. -/
theorem hexColor?_of_no_color :
    hexColor? "+1+2+3" = some (colorOf 1 2 3) ∧ ¬ ∃ r g b, SpelledBy TwoDigits "+1+2+3" r g b := by
  refine ⟨by decide, ?_⟩
  rintro ⟨r, g, b, spelled⟩
  exact spelled.plus_notMem (by decide)

end LayeredScene
