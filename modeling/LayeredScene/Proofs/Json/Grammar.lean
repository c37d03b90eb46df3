import LayeredScene.Json.Basic
import LayeredScene.Proofs.Text.HexDigits

/-! # The spellings of a JSON value

`Json.Spells` says which texts stand for a value, by the grammar of JSON and without regard to how
one is written or read here: blank space may stand between any two parts, a character of a string
may be escaped in several ways, and an exponent may have leading zeros or lack its sign.  Strings
are texts of Unicode characters; half a surrogate pair spells none.

In either layout, what is written of a value is one of its spellings (`isSpelledBy_render`).
-/

namespace LayeredScene

/-- Blank space between the parts of a text, or nothing. -/
def Json.IsGap (cs : List Char) : Prop :=
  ∀ c ∈ cs, c ∈ [' ', '\n', '\t', '\r']

instance (cs : List Char) : Decidable (Json.IsGap cs) :=
  List.decidableBAll (· ∈ [' ', '\n', '\t', '\r']) cs

/-! ## Numbers -/

/-- The number with these digits. -/
def digitsValue (ds : List (Fin 10)) : Nat :=
  ds.foldl (fun n d => n * 10 + d.val) 0

namespace Numeral

/-- The sign of an exponent; a plus may be left out. -/
def SpellsSign (down : Bool) (cs : List Char) : Prop :=
  if down then cs = ['-'] else cs = [] ∨ cs = ['+']

/-- An exponent with its mark, or nothing. -/
def SpellsPower : Option Int → List Char → Prop
  | none, cs => cs = []
  | some e, cs => ∃ mark down sign ds, (mark = 'e' ∨ mark = 'E') ∧ SpellsSign down sign ∧ ds ≠ [] ∧
      e = (if down then -(digitsValue ds : Int) else digitsValue ds) ∧
      cs = mark :: sign ++ ds.map digitChar

/-- The text is a spelling of the numeral. -/
def Spells (n : Numeral) (cs : List Char) : Prop :=
  ∃ power, SpellsPower n.exponent power ∧
    cs = (if n.negative then ['-'] else []) ++
      (Nat.toDigits 10 n.whole ++
        (if n.fraction.isEmpty then [] else '.' :: n.fraction.map digitChar) ++ power)

end Numeral

/-! ## Strings -/

/-- The short escapes, by the letter behind the backslash. -/
def shortEscapes : List (Char × Char) :=
  [('"', '"'), ('\\', '\\'), ('/', '/'), ('b', '\x08'), ('f', '\x0c'), ('n', '\n'), ('r', '\r'),
   ('t', '\t')]

/-- Four hexadecimal digits. -/
def FourDigits (n : Nat) (cs : List Char) : Prop :=
  ∃ a b c d a' b' c' d', cs = [a', b', c', d'] ∧ HexDigit a' a ∧ HexDigit b' b ∧ HexDigit c' c ∧
    HexDigit d' d ∧ n = ((a * 16 + b) * 16 + c) * 16 + d

/-- What stands between the quotes is a spelling of these characters. -/
inductive SpellsChars : List Char → List Char → Prop where
  | nil : SpellsChars [] []
  /-- A character that stands for itself. -/
  | plain {c s cs} (printable : 0x20 ≤ c.toNat) (quote : c ≠ '"') (backslash : c ≠ '\\')
      (rest : SpellsChars s cs) : SpellsChars (c :: s) (c :: cs)
  | escape {letter c s cs} (short : (letter, c) ∈ shortEscapes) (rest : SpellsChars s cs) :
      SpellsChars (c :: s) ('\\' :: letter :: cs)
  | unit {c digits s cs} (code : FourDigits c.toNat digits) (rest : SpellsChars s cs) :
      SpellsChars (c :: s) ('\\' :: 'u' :: (digits ++ cs))
  /-- A character beyond the first plane, by the two halves of its surrogate pair. -/
  | pair {c high low highDigits lowDigits s cs} (lead : 0xD800 ≤ high ∧ high < 0xDC00)
      (trail : 0xDC00 ≤ low ∧ low < 0xE000)
      (code : c.toNat = 0x10000 + (high - 0xD800) * 0x400 + (low - 0xDC00))
      (first : FourDigits high highDigits) (second : FourDigits low lowDigits)
      (rest : SpellsChars s cs) :
      SpellsChars (c :: s) ('\\' :: 'u' :: (highDigits ++ '\\' :: 'u' :: (lowDigits ++ cs)))

/-- Characters that need no escape may all stand for themselves. -/
theorem SpellsChars.of_plain {s : List Char}
    (plain : ∀ c ∈ s, 0x20 ≤ c.toNat ∧ c ≠ '"' ∧ c ≠ '\\') : SpellsChars s s := by
  induction s with
  | nil => exact .nil
  | cons c s ih =>
    obtain ⟨⟨printable, quote, backslash⟩, rest⟩ := List.forall_mem_cons.mp plain
    exact .plain printable quote backslash (ih rest)

/-- A quoted string. -/
def SpellsText (s : String) (cs : List Char) : Prop :=
  ∃ body, SpellsChars s.toList body ∧ cs = '"' :: (body ++ ['"'])

/-! ## Values -/

/-- A part with gaps around it. -/
def Padded (part : List Char → Prop) (cs : List Char) : Prop :=
  ∃ before inside after, Json.IsGap before ∧ part inside ∧ Json.IsGap after ∧
    cs = before ++ inside ++ after

/-- Parts with commas between them; without a part there may still be a gap. -/
def Laid : List (List Char → Prop) → List Char → Prop
  | [], cs => Json.IsGap cs
  | [part], cs => Padded part cs
  | part :: parts, cs =>
    ∃ first rest, Padded part first ∧ Laid parts rest ∧ cs = first ++ ',' :: rest

/-- A name and a value, with a colon between them. -/
def SpellsMember (name : String) (value : List Char → Prop) (cs : List Char) : Prop :=
  ∃ key before after inside, SpellsText name key ∧ Json.IsGap before ∧ Json.IsGap after ∧
    value inside ∧ cs = key ++ before ++ ':' :: (after ++ inside)

namespace Json

mutual

/-- The text is a spelling of the value. -/
def Spells : Json → List Char → Prop
  | .null, cs => cs = "null".toList
  | .bool b, cs => cs = (if b then "true" else "false").toList
  | .number n, cs => n.Spells cs
  | .text s, cs => SpellsText s cs
  | .list items, cs => ∃ inside, Laid (itemSpellings items) inside ∧ cs = '[' :: (inside ++ [']'])
  | .object members, cs =>
    ∃ inside, Laid (memberSpellings members) inside ∧ cs = '{' :: (inside ++ ['}'])

def itemSpellings : List Json → List (List Char → Prop)
  | [] => []
  | x :: xs => Spells x :: itemSpellings xs

def memberSpellings : List (String × Json) → List (List Char → Prop)
  | [] => []
  | (name, x) :: ms => SpellsMember name (Spells x) :: memberSpellings ms

end

/-- The whole text is a spelling of the value. -/
def IsSpelledBy (j : Json) (text : String) : Prop :=
  Padded j.Spells text.toList

end Json

/-! ## What is written is a spelling -/

theorem exists_digits (n : Nat) :
    ∃ ds, ds ≠ [] ∧ digitsValue ds = n ∧ Nat.toDigits 10 n = ds.map digitChar := by
  have char : ∀ d : Fin 10, Nat.digitChar d = digitChar d := by decide
  induction n using Nat.strongRecOn with
  | ind n ih =>
    -- The digits of a number are those of its tenth and the last one.
    by_cases single : n < 10
    · refine ⟨[⟨n, single⟩], List.cons_ne_nil _ _, Nat.zero_add n, ?_⟩
      rw [Nat.toDigits_of_lt_base single, char ⟨n, single⟩]
      rfl
    · obtain ⟨ds, -, value, digits⟩ := ih (n / 10) (by omega)
      refine ⟨ds ++ [lastDigit n], by simp, ?_, ?_⟩
      · rw [digitsValue, List.foldl_append, ← digitsValue, value]
        exact Nat.div_add_mod' n 10
      · have last : Nat.digitChar (n % 10) = digitChar (lastDigit n) := char (lastDigit n)
        rw [Nat.toDigits_of_base_le (by decide) (by omega), digits, last, List.map_append]
        rfl

namespace Numeral

theorem spellsPower_written (e : Int) :
    SpellsPower (some e) ('e' :: (if e < 0 then '-' else '+') :: Nat.toDigits 10 e.natAbs) := by
  obtain ⟨ds, nonempty, value, digits⟩ := exists_digits e.natAbs
  rw [digits]
  by_cases below : e < 0
  · refine ⟨'e', true, ['-'], ds, .inl rfl, rfl, nonempty, ?_, by rw [if_pos below]; rfl⟩
    rw [value, if_pos rfl]
    omega
  · refine ⟨'e', false, ['+'], ds, .inl rfl, .inr rfl, nonempty, ?_, by rw [if_neg below]; rfl⟩
    rw [value, if_neg Bool.false_ne_true]
    omega

theorem spells_chars (n : Numeral) : n.Spells n.chars := by
  obtain ⟨negative, whole, fraction, exponent⟩ := n
  have grouped (a b c d : List Char) : a ++ b ++ c ++ d = a ++ (b ++ c ++ d) := by
    simp only [List.append_assoc]
  cases exponent with
  | none => exact ⟨[], rfl, grouped _ _ _ _⟩
  | some e => exact ⟨_, spellsPower_written e, grouped _ _ _ _⟩

end Numeral

theorem hexDigit_hexDigit {n : Nat} (h : n < 16) : HexDigit (Json.hexDigit n) n := by
  have all : ∀ n : Fin 16, HexDigit (Json.hexDigit n) n := by decide
  exact all ⟨n, h⟩

theorem SpellsChars.escaped (s : List Char) : SpellsChars s (s.flatMap Json.escape) := by
  induction s with
  | nil => exact .nil
  | cons c s ih =>
    rw [List.flatMap_cons]
    -- Characters with a short escape, other control characters, and all others.
    by_cases short : c ∈ ['"', '\\', '\n', '\r', '\t', '\x08', '\x0c']
    · simp only [List.mem_cons, List.not_mem_nil, or_false] at short
      rcases short with rfl | rfl | rfl | rfl | rfl | rfl | rfl <;> exact .escape (by decide) ih
    · simp only [List.mem_cons, List.not_mem_nil, or_false, not_or] at short
      simp only [Json.escape, short, if_false]
      split
      · next control =>
        have code : FourDigits c.toNat
            ['0', '0', Json.hexDigit (c.toNat / 16), Json.hexDigit (c.toNat % 16)] :=
          ⟨0, 0, c.toNat / 16, c.toNat % 16, _, _, _, _, rfl, by decide, by decide,
            hexDigit_hexDigit (by omega), hexDigit_hexDigit (by omega), by omega⟩
        exact .unit code ih
      · next printable => exact .plain (by omega) short.1 short.2.1 ih

theorem spellsText_quote (s : String) : SpellsText s (Json.quote s) :=
  ⟨_, .escaped s.toList, rfl⟩

section Layout

variable {part : List Char → Prop} {parts : List (List Char → Prop)} {cs gap : List Char}

theorem Padded.of_gap (blank : Json.IsGap gap) (h : part cs) : Padded part (gap ++ cs) :=
  ⟨gap, cs, [], blank, h, List.forall_mem_nil _, (List.append_nil _).symm⟩

theorem Padded.append_gap (h : Padded part cs) (blank : Json.IsGap gap) :
    Padded part (cs ++ gap) := by
  obtain ⟨before, inside, after, blank₁, h, blank₂, rfl⟩ := h
  exact ⟨before, inside, after ++ gap, blank₁, h, List.forall_mem_append.mpr ⟨blank₂, blank⟩,
    List.append_assoc _ _ _⟩

theorem Laid.append_gap (h : Laid parts cs) (blank : Json.IsGap gap) : Laid parts (cs ++ gap) := by
  induction parts generalizing cs with
  | nil => exact List.forall_mem_append.mpr ⟨h, blank⟩
  | cons part parts ih =>
    cases parts with
    | nil => exact Padded.append_gap h blank
    | cons next parts =>
      obtain ⟨first, rest, padded, laid, rfl⟩ := h
      exact ⟨first, rest ++ gap, padded, ih laid, by simp⟩

/-- The beginning of a line is a gap. -/
theorem Json.Layout.exists_gap (layout : Json.Layout) (depth : Nat) :
    ∃ gap, Json.IsGap gap ∧ ∀ out, layout.gap depth out = gap.reverseAux out := by
  cases layout with
  | compact => exact ⟨[], List.forall_mem_nil _, fun _ => rfl⟩
  | pretty =>
    refine ⟨'\n' :: List.replicate (2 * depth) ' ', ?_, fun out => ?_⟩
    · refine List.forall_mem_cons.mpr ⟨by decide, fun c hc => ?_⟩
      rw [List.eq_of_mem_replicate hc]
      decide
    · rw [gap, List.reverseAux, List.reverseAux_eq, List.reverse_replicate]

theorem Json.Layout.exists_colon (layout : Json.Layout) :
    ∃ gap, Json.IsGap gap ∧ layout.colon = ':' :: gap := by
  cases layout with
  | compact => exact ⟨[], List.forall_mem_nil _, rfl⟩
  | pretty => exact ⟨[' '], by decide, rfl⟩

end Layout

namespace Json

mutual

/-- Behind the text so far, a spelling of the value is written. -/
theorem spells_pour (layout : Layout) (j : Json) (depth : Nat) (out : List Char) :
    ∃ cs, j.Spells cs ∧ pour layout j depth out = cs.reverseAux out := by
  cases j with
  | null => exact ⟨_, rfl, rfl⟩
  | bool b => exact ⟨_, rfl, rfl⟩
  | number n => exact ⟨n.chars, n.spells_chars, rfl⟩
  | text s => exact ⟨quote s, spellsText_quote s, rfl⟩
  | list items =>
    rw [pour]
    split
    · next none =>
      rw [List.isEmpty_iff.mp none]
      exact ⟨['[', ']'], ⟨[], List.forall_mem_nil _, rfl⟩, rfl⟩
    · next some =>
      obtain ⟨inside, laid, poured⟩ := laid_pourItems layout items depth true ('[' :: out)
        (by simpa using some)
      obtain ⟨gap, blank, gapped⟩ := layout.exists_gap depth
      refine ⟨_, ⟨_, laid.append_gap blank, rfl⟩, ?_⟩
      simp [gapped, poured, List.reverseAux_eq]
  | object members =>
    rw [pour]
    split
    · next none =>
      rw [List.isEmpty_iff.mp none]
      exact ⟨['{', '}'], ⟨[], List.forall_mem_nil _, rfl⟩, rfl⟩
    · next some =>
      obtain ⟨inside, laid, poured⟩ := laid_pourMembers layout members depth true ('{' :: out)
        (by simpa using some)
      obtain ⟨gap, blank, gapped⟩ := layout.exists_gap depth
      refine ⟨_, ⟨_, laid.append_gap blank, rfl⟩, ?_⟩
      simp [gapped, poured, List.reverseAux_eq]

theorem laid_pourItems (layout : Layout) (items : List Json) (depth : Nat) (first : Bool)
    (out : List Char) (some : items ≠ []) :
    ∃ cs, Laid (itemSpellings items) cs ∧
      pourItems layout items depth first out =
        cs.reverseAux (if first then out else ',' :: out) := by
  cases items with
  | nil => exact absurd rfl some
  | cons x xs =>
    obtain ⟨gap, blank, gapped⟩ := layout.exists_gap (depth + 1)
    obtain ⟨value, spelled, poured⟩ := spells_pour layout x (depth + 1)
      (layout.gap (depth + 1) (if first then out else ',' :: out))
    rw [gapped] at poured
    have item := Padded.of_gap blank spelled
    rw [pourItems, gapped, poured]
    cases xs with
    | nil => exact ⟨_, item, by simp [pourItems, List.reverseAux_eq]⟩
    | cons y ys =>
      obtain ⟨rest, laid, later⟩ := laid_pourItems layout (y :: ys) depth false
        (value.reverseAux (gap.reverseAux (if first then out else ',' :: out))) nofun
      exact ⟨_, ⟨_, rest, item, laid, rfl⟩, later.trans (by simp [List.reverseAux_eq])⟩

theorem laid_pourMembers (layout : Layout) (members : List (String × Json)) (depth : Nat)
    (first : Bool) (out : List Char) (some : members ≠ []) :
    ∃ cs, Laid (memberSpellings members) cs ∧
      pourMembers layout members depth first out =
        cs.reverseAux (if first then out else ',' :: out) := by
  cases members with
  | nil => exact absurd rfl some
  | cons member xs =>
    obtain ⟨key, x⟩ := member
    obtain ⟨gap, blank, gapped⟩ := layout.exists_gap (depth + 1)
    obtain ⟨colonGap, blankColon, colon⟩ := layout.exists_colon
    obtain ⟨value, spelled, poured⟩ := spells_pour layout x (depth + 1)
      (layout.colon.reverseAux ((quote key).reverseAux
        (layout.gap (depth + 1) (if first then out else ',' :: out))))
    have member : Padded (SpellsMember key x.Spells) _ :=
      .of_gap blank ⟨quote key, [], colonGap, value, spellsText_quote key, List.forall_mem_nil _,
        blankColon, spelled, rfl⟩
    rw [pourMembers, poured, colon, gapped]
    cases xs with
    | nil => exact ⟨_, member, by simp [pourMembers, List.reverseAux_eq]⟩
    | cons y ys =>
      obtain ⟨rest, laid, later⟩ := laid_pourMembers layout (y :: ys) depth false
        (value.reverseAux ((':' :: colonGap).reverseAux ((quote key).reverseAux
          (gap.reverseAux (if first then out else ',' :: out))))) nofun
      exact ⟨_, ⟨_, rest, member, laid, rfl⟩, later.trans (by simp [List.reverseAux_eq])⟩

end

/-- What is written of a value spells it, also with spaces behind it. -/
theorem isSpelledBy_render (layout : Layout) (j : Json) (count : Nat) :
    j.IsSpelledBy (j.render layout ++ String.ofList (List.replicate count ' ')) := by
  obtain ⟨cs, spelled, poured⟩ := spells_pour layout j 0 []
  refine ⟨[], cs, List.replicate count ' ', List.forall_mem_nil _, spelled, fun c hc => ?_, ?_⟩
  · rw [List.eq_of_mem_replicate hc]
    decide
  · simp [render, poured, List.reverseAux_eq]

end Json

end LayeredScene
