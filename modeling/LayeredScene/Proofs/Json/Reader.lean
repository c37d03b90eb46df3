import LayeredScene.Proofs.Json.Numerals
import LayeredScene.Proofs.Json.Quoted

/-! # The reader between the parts of a text

The reader is a machine that takes one character at a time.  `Scan.Stands` says that behind a value
it goes on as it does after that value.  It is not quite the state after the value, because the end
of a number shows only in the character that follows.  `Scan.Listing` and `Scan.Naming` say the same
inside a list, behind some of its items, and inside an object, behind some of its members.

Blank space keeps all three, a comma leads to where the next item or member is wanted, and the
closing bracket makes a value of a list or object.
-/

namespace LayeredScene

namespace Scan

variable {frames : List Frame} {d : Draft} {s : Scan}

/-! ## Where a value is wanted -/

theorem step_value (frames : List Frame) (c : Char) : step ⟨frames, .value⟩ c = want frames c := rfl

theorem step_key (frames : List Frame) (before : List (Option String × Draft)) (c : Char) :
    step ⟨frames, .key before⟩ c = wantKey frames before c := rfl

theorem step_value_space (frames : List Frame) {c : Char} (blank : isSpace c) :
    step ⟨frames, .value⟩ c = ⟨frames, .value⟩ := by
  rw [step_value, want.eq_def, if_pos blank]

theorem step_key_space (frames : List Frame) (before : List (Option String × Draft)) {c : Char}
    (blank : isSpace c) : step ⟨frames, .key before⟩ c = ⟨frames, .key before⟩ := by
  rw [step_key, wantKey, if_pos blank]

/-- A closing bracket aside, what is no blank space begins a value. -/
theorem want_eq_opening {c : Char} (space : isSpace c = false) (bracket : c ≠ ']') :
    want frames c = opening frames c := by
  cases frames with
  | nil => simp [want, space]
  | cons frame rest => cases frame <;> simp [want, space, bracket]

/-- A word is read letter by letter. -/
theorem foldl_word {c : Char} {cs : List Char} (space : isSpace c = false) (bracket : c ≠ ']')
    (letters : cs.foldl step (opening frames c) = ⟨frames, .after d⟩) :
    (c :: cs).foldl step ⟨frames, .value⟩ = ⟨frames, .after d⟩ := by
  rw [List.foldl_cons, step_value, want_eq_opening space bracket, letters]

theorem foldl_null : "null".toList.foldl step ⟨frames, .value⟩ = ⟨frames, .after .null⟩ :=
  foldl_word rfl (by decide) rfl

theorem foldl_bool (b : Bool) :
    (if b then "true" else "false").toList.foldl step ⟨frames, .value⟩ =
      ⟨frames, .after (.bool b)⟩ := by
  cases b with
  | true => exact foldl_word rfl (by decide) rfl
  | false => exact foldl_word rfl (by decide) rfl

/-- Inside quotes the machine only hands its characters on. -/
theorem foldl_quoted (within : TextScan → Scan) {t t' : TextScan} {cs : List Char}
    (hands : ∀ t c t', t.step c = .more t' → (within t).step c = within t')
    (h : t.run? cs = some t') : cs.foldl step (within t) = within t' := by
  induction cs generalizing t with
  | nil => simp_all [TextScan.run?]
  | cons c cs ih =>
    rw [TextScan.run?] at h
    split at h
    · next more => rw [List.foldl_cons, hands _ _ _ more, ih h]
    · cases h

theorem foldl_number {n n' : NumberScan} {cs : List Char} (h : n.run? cs = some n') :
    cs.foldl step ⟨frames, .number n⟩ = ⟨frames, .number n'⟩ := by
  induction cs generalizing n with
  | nil => simp_all [NumberScan.run?]
  | cons c cs ih =>
    rw [NumberScan.run?] at h
    split at h
    · next more => simpa [step, more] using ih h
    · cases h

theorem foldl_text {text : String} {cs : List Char} (spelled : SpellsText text cs) :
    cs.foldl step ⟨frames, .value⟩ = ⟨frames, .after (.text text)⟩ := by
  obtain ⟨body, chars, rfl⟩ := spelled
  have opened : want frames '"' = ⟨frames, .quoted (.holding [])⟩ := want_eq_opening rfl (by decide)
  have inside := foldl_quoted (fun t => ⟨frames, .quoted t⟩)
    (fun t c t' more => by simp [step, more]) (TextScan.run?_between chars)
  rw [List.foldl_cons, List.foldl_append, step_value, opened, inside]
  simp [step, TextScan.step_quote]

theorem foldl_key (before : List (Option String × Draft)) {key : String} {cs : List Char}
    (spelled : SpellsText key cs) :
    cs.foldl step ⟨frames, .key before⟩ = ⟨frames, .colon before (some key)⟩ := by
  obtain ⟨body, chars, rfl⟩ := spelled
  have opened : wantKey frames before '"' = ⟨frames, .quotedKey before (.holding [])⟩ := rfl
  have inside := foldl_quoted (fun t => ⟨frames, .quotedKey before t⟩)
    (fun t c t' more => by simp [step, more]) (TextScan.run?_between chars)
  rw [List.foldl_cons, List.foldl_append, step_key, opened, inside]
  simp [step, TextScan.step_quote]

/-! ## Behind a value -/

/-- The characters that may stand behind a value. -/
def Ends (c : Char) : Prop :=
  c ∈ [',', ']', '}', ' ', '\n', '\t', '\r']

instance (c : Char) : Decidable (Ends c) :=
  inferInstanceAs (Decidable (c ∈ _))

theorem ends_of_isSpace {c : Char} (blank : isSpace c) : Ends c := by
  simp only [isSpace, Bool.or_eq_true, beq_iff_eq] at blank
  rcases blank with ((rfl | rfl) | rfl) | rfl <;> decide

/-- The machine goes on as it does after the value. -/
structure Stands (frames : List Frame) (d : Draft) (s : Scan) : Prop where
  finish : s.finish = close frames d
  follow : ∀ c, Ends c → s.step c = Scan.follow frames d c

theorem stands_after (frames : List Frame) (d : Draft) : Stands frames d ⟨frames, .after d⟩ :=
  ⟨rfl, fun _ _ => rfl⟩

/-- Where a number may stop, what stands behind a value ends it. -/
theorem step_of_complete {n : NumberScan} (h : n.complete) {c : Char} (ends : Ends c) :
    n.step c = .ended := by
  simp only [Ends, List.mem_cons, List.not_mem_nil, or_false] at ends
  obtain ⟨negative, whole, fraction, down, exponent, phase⟩ := n
  cases phase with
  | zero | whole | fraction | exponent =>
    rcases ends with rfl | rfl | rfl | rfl | rfl | rfl | rfl <;> rfl
  | minus | point | mark | markSign => cases h

theorem stands_number (frames : List Frame) {n : NumberScan} (h : n.complete) :
    Stands frames (.number n.numeral) ⟨frames, .number n⟩ where
  finish := by simp [Scan.finish, h]
  follow c ends := by simp [step, step_of_complete h ends]

theorem want_digit {c : Char} {digit : Fin 10} (h : NumberScan.digit? c = some digit) :
    want frames c = ⟨frames, .number (.first false digit)⟩ := by
  -- What is no digit is another character.
  have other : ∀ c', NumberScan.digit? c' = none → c ≠ c' := by
    rintro c' none rfl
    rw [none] at h
    cases h
  have space : isSpace c = false := by
    simp [isSpace, other ' ' rfl, other '\n' rfl, other '\t' rfl, other '\r' rfl]
  rw [want_eq_opening space (other ']' rfl), opening, h]
  all_goals exact other _ rfl

/-- A number is read from its sign and from what the machine for numbers goes through. -/
theorem stands_signed (frames : List Frame) {negative : Bool} {size : List Char} {scan : NumberScan}
    (run : (NumberScan.signed negative).run? size = some scan) (complete : scan.complete) :
    Stands frames (.number scan.numeral)
      (((if negative then ['-'] else []) ++ size).foldl step ⟨frames, .value⟩) := by
  have stands := stands_number frames complete
  rw [← foldl_number run] at stands
  cases negative with
  | true =>
    have minus : want frames '-' = ⟨frames, .number (.signed true)⟩ :=
      want_eq_opening rfl (by decide)
    rw [if_pos rfl, List.singleton_append, List.foldl_cons, step_value, minus]
    exact stands
  | false =>
    rw [if_neg (by decide), List.nil_append]
    cases size with
    | nil =>
      cases run
      cases complete
    | cons c cs =>
      -- The size is not empty and begins with a digit, as the machine could not go on otherwise.
      cases digit : NumberScan.digit? c with
      | none => simp [NumberScan.run?, NumberScan.step, NumberScan.signed, digit] at run
      | some d =>
        have first : step ⟨frames, .number (.signed false)⟩ c =
            step ⟨frames, .value⟩ c := by
          rw [step_value, want_digit digit]
          simp [step, NumberScan.step, NumberScan.signed, digit]
        rwa [List.foldl_cons, first] at stands

theorem stands_numeral (frames : List Frame) {n : Numeral} {cs : List Char}
    (spelled : n.Spells cs) : Stands frames (.number n) (cs.foldl step ⟨frames, .value⟩) := by
  obtain ⟨size, scan, rfl, run, complete, rfl⟩ := NumberScan.run?_spelled spelled
  exact stands_signed frames run complete

/-! ## Gaps -/

theorem isSpace_of_gap {gap : List Char} (blank : Json.IsGap gap) {c : Char} (hc : c ∈ gap) :
    isSpace c := by
  have listed := blank c hc
  simp only [List.mem_cons, List.not_mem_nil, or_false] at listed
  rcases listed with rfl | rfl | rfl | rfl <;> rfl

/-- What a blank character keeps, a gap keeps. -/
theorem foldl_gap (Holds : Scan → Prop) (kept : ∀ s c, Holds s → isSpace c → Holds (s.step c))
    {gap : List Char} (blank : Json.IsGap gap) (h : Holds s) : Holds (gap.foldl step s) := by
  have spaces := fun c => isSpace_of_gap (c := c) blank
  clear blank
  induction gap generalizing s with
  | nil => exact h
  | cons c gap ih =>
    exact ih (kept s c h (spaces c List.mem_cons_self)) fun c' hc =>
      spaces c' (List.mem_cons_of_mem c hc)

theorem foldl_gap_value {gap : List Char} (blank : Json.IsGap gap) :
    gap.foldl step ⟨frames, .value⟩ = ⟨frames, .value⟩ :=
  foldl_gap (· = ⟨frames, .value⟩) (fun _ _ h space => h ▸ step_value_space frames space) blank rfl

theorem foldl_gap_key {before : List (Option String × Draft)} {gap : List Char}
    (blank : Json.IsGap gap) : gap.foldl step ⟨frames, .key before⟩ = ⟨frames, .key before⟩ :=
  foldl_gap (· = ⟨frames, .key before⟩) (fun _ _ h space => h ▸ step_key_space frames before space)
    blank rfl

theorem foldl_gap_colon {before : List (Option String × Draft)} {key : Option String}
    {gap : List Char} (blank : Json.IsGap gap) :
    gap.foldl step ⟨frames, .colon before key⟩ = ⟨frames, .colon before key⟩ :=
  foldl_gap (· = ⟨frames, .colon before key⟩)
    (fun s c h space => by rw [h, step]; exact if_pos space) blank rfl

/-! ## Between values -/

theorem Stands.space (h : Stands frames d s) {c : Char} (blank : isSpace c) :
    Stands frames d (s.step c) := by
  rw [h.follow c (ends_of_isSpace blank), Scan.follow.eq_def, if_pos blank]
  exact stands_after frames d

/-- Inside a list, behind these items. -/
inductive Listing (frames : List Frame) : List Draft → Scan → Prop where
  | opened : Listing frames [] ⟨.inList [] :: frames, .value⟩
  | item {before d s} :
      Stands (.inList before :: frames) d s → Listing frames (before.reverse ++ [d]) s

/-- Inside an object, behind these members. -/
inductive Naming (frames : List Frame) : List (Option String × Draft) → Scan → Prop where
  | opened : Naming frames [] ⟨frames, .key []⟩
  | member {before key d s} :
      Stands (.inObject before key :: frames) d s → Naming frames (before.reverse ++ [(key, d)]) s

section Lists

variable {done : List Draft}

theorem Listing.space (h : Listing frames done s) {c : Char} (blank : isSpace c) :
    Listing frames done (s.step c) := by
  cases h with
  | opened =>
    rw [step_value_space _ blank]
    exact .opened
  | item stands => exact .item (stands.space blank)

theorem Listing.comma (h : Listing frames done s) (some : done ≠ []) :
    s.step ',' = ⟨.inList done.reverse :: frames, .value⟩ := by
  cases h with
  | opened => exact absurd rfl some
  | @item before d _ stands =>
    have comma : follow (.inList before :: frames) d ',' =
        ⟨.inList (d :: before) :: frames, .value⟩ := rfl
    rw [stands.follow ',' (by decide), comma, List.reverse_append, List.reverse_reverse]
    rfl

theorem Listing.close (h : Listing frames done s) :
    s.step ']' = ⟨frames, .after (enclose frames.length (.list done .closed))⟩ := by
  cases h with
  | opened => rfl
  | @item before d _ stands =>
    have bracket : follow (.inList before :: frames) d ']' =
        ⟨frames, .after (enclose frames.length (.list (d :: before).reverse .closed))⟩ := rfl
    rw [stands.follow ']' (by decide), bracket, List.reverse_cons]

end Lists

section Objects

variable {done : List (Option String × Draft)}

theorem Naming.space (h : Naming frames done s) {c : Char} (blank : isSpace c) :
    Naming frames done (s.step c) := by
  cases h with
  | opened =>
    rw [step_key_space _ _ blank]
    exact .opened
  | member stands => exact .member (stands.space blank)

theorem Naming.comma (h : Naming frames done s) (some : done ≠ []) :
    s.step ',' = ⟨frames, .key done.reverse⟩ := by
  cases h with
  | opened => exact absurd rfl some
  | @member before key d _ stands =>
    have comma : follow (.inObject before key :: frames) d ',' =
        ⟨frames, .key ((key, d) :: before)⟩ := rfl
    rw [stands.follow ',' (by decide), comma, List.reverse_append, List.reverse_reverse]
    rfl

theorem Naming.close (h : Naming frames done s) :
    s.step '}' = ⟨frames, .after (enclose frames.length (.object done .closed))⟩ := by
  cases h with
  | opened => rfl
  | @member before key d _ stands =>
    have brace : follow (.inObject before key :: frames) d '}' =
        ⟨frames, .after (enclose frames.length (.object ((key, d) :: before).reverse .closed))⟩ :=
      rfl
    rw [stands.follow '}' (by decide), brace, List.reverse_cons]

end Objects

/-! ## Items and members -/

theorem listing_padded {before : List Draft} {value : List Char → Prop} {cs : List Char}
    (stands : ∀ inside, value inside → Stands (.inList before :: frames) d
      (inside.foldl step ⟨.inList before :: frames, .value⟩))
    (padded : Padded value cs) :
    Listing frames (before.reverse ++ [d]) (cs.foldl step ⟨.inList before :: frames, .value⟩) := by
  obtain ⟨gap, inside, gap', blank, spelled, blank', rfl⟩ := padded
  rw [List.foldl_append, List.foldl_append, foldl_gap_value blank]
  exact foldl_gap _ (fun _ _ h space => h.space space) blank' (.item (stands inside spelled))

theorem naming_padded {before : List (Option String × Draft)} {name : String}
    {value : List Char → Prop} {cs : List Char}
    (stands : ∀ inside, value inside → Stands (.inObject before (some name) :: frames) d
      (inside.foldl step ⟨.inObject before (some name) :: frames, .value⟩))
    (padded : Padded (SpellsMember name value) cs) :
    Naming frames (before.reverse ++ [(some name, d)]) (cs.foldl step ⟨frames, .key before⟩) := by
  obtain ⟨gap, member, gap', blank, ⟨_, colon, colon', inside, key, blankColon,
    blankColon', spelled, rfl⟩, blank', rfl⟩ := padded
  have wanted : step ⟨frames, .colon before (some name)⟩ ':' =
      ⟨.inObject before (some name) :: frames, .value⟩ := rfl
  -- The name and the colon are read before the value is wanted.
  rw [List.foldl_append, List.foldl_append, foldl_gap_key blank, List.foldl_append,
    List.foldl_append, foldl_key before key, foldl_gap_colon blankColon, List.foldl_cons, wanted,
    List.foldl_append, foldl_gap_value blankColon']
  exact foldl_gap _ (fun _ _ h space => h.space space) blank' (.member (stands inside spelled))

end Scan

end LayeredScene
