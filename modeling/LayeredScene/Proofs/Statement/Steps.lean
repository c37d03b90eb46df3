import LayeredScene.Proofs.Statement.Words

/-! # The steps of a scan

A step takes a token, or two, and gives a command.  Which one is told by a rule for each kind of
word (`TokenStep.Gives`), and the order in which the rules are tried does not matter, since no word
is of two kinds.  What a command changes of a statement can then be said of the step alone, field by
field (`Gives.shape_apply` and those after it).
-/

namespace LayeredScene

/-- A token and, if it takes one, the token behind it. -/
structure TokenStep where
  token : String
  argument : Option String

namespace TokenStep

def tokens (t : TokenStep) : List String :=
  t.token :: t.argument.toList

/-- The token as it is looked up. -/
def word (t : TokenStep) : String :=
  Text.lower t.token

def shape? (t : TokenStep) : Option Shape :=
  Shape.ofKeyword? t.word

def direction? (t : TokenStep) : Option Direction :=
  Direction.ofWord? t.word

def material? (t : TokenStep) : Option Material :=
  Material.ofWord? t.word

/-- The axis of a direction, or as far along it as is measured. -/
def offset? (t : TokenStep) : Option (Triple Float) :=
  match t.direction?, t.argument with
  | some (.vector axis), none => some axis
  | some (.vector axis), some distance => some (axis.map (· * lengthOf distance))
  | _, _ => none

def extent? (t : TokenStep) : Option Float :=
  if isLength t.word then some (lengthOf t.word) else none

/-- The token behind a key word. -/
def argumentOf? (key : String) (t : TokenStep) : Option String :=
  if t.word = key then t.argument else none

/-- Is the step of no kind?  A key word without a token behind it is of none. -/
def isOther (t : TokenStep) : Bool :=
  WordKind.all.all fun k => !k.holds t.word || (k == .key && t.argument.isNone)

/-- The tag of a motion, or a word that means nothing in particular. -/
def modifier? (t : TokenStep) : Option String :=
  match t.direction? with
  | some (.motion tag) => some tag
  | _ => if t.isOther then some t.word else none

/-- Is `next`, which stands behind the first token of the step, to be taken with it? -/
def TakesNext (t : TokenStep) (next : Option String) : Prop :=
  (∃ axis, t.direction? = some (.vector axis)) ∧
      (∃ distance, next = some distance ∧ isLength distance) ∨
    t.word ∈ ["diameter", "repeat", "attach"] ∧ next.isSome

/-! ## What a step says -/

/-- The rules by which a step gives a command, if `next` stands behind its first token.  There is no
    order among them. -/
inductive Gives (next : Option String) (t : TokenStep) : CommandStep → Prop where
  | shape {s : Shape} (alone : t.argument = none) (named : t.shape? = some s) :
      Gives next t ⟨.shape s, false⟩
  | axis {axis : Triple Float} (alone : t.argument = none)
      (named : t.direction? = some (.vector axis)) (unmeasured : next.filter isLength = none) :
      Gives next t ⟨.move axis none, false⟩
  | distance {axis : Triple Float} {distance : String} (behind : t.argument = some distance)
      (named : t.direction? = some (.vector axis))
      (measured : next.filter isLength = some distance) :
      Gives next t ⟨.move axis (some (lengthOf distance)), true⟩
  | motion {tag : String} (alone : t.argument = none)
      (named : t.direction? = some (.motion tag)) : Gives next t ⟨.motion tag, false⟩
  | material {m : Material} (alone : t.argument = none) (named : t.material? = some m) :
      Gives next t ⟨.material m, false⟩
  | extent (alone : t.argument = none) (measured : isLength t.word) :
      Gives next t ⟨.extent (lengthOf t.word), false⟩
  | note {k : KeyWord} {argument : String} (behind : t.argument = some argument)
      (key : KeyWord.ofWord? t.word = some k) (taken : next = some argument) :
      Gives next t ⟨.note k.name (k.value argument), true⟩
  | lastKey (alone : t.argument = none) (key : WordKind.key.holds t.word) (last : next = none) :
      Gives next t ⟨.modifier t.word, false⟩
  | other (alone : t.argument = none) (unknown : ∀ k : WordKind, k.holds t.word = false) :
      Gives next t ⟨.modifier t.word, false⟩

/-- What is taken of a token and the one behind it. -/
def taken (token : String) (next : Option String) (step : CommandStep) : TokenStep :=
  ⟨token, if step.takesNext then next else none⟩

theorem gives_ofDirection {token : String} {d : Direction}
    (named : Direction.ofWord? (Text.lower token) = some d) (next : Option String) :
    Gives next (taken token next (Command.ofDirection next d)) (Command.ofDirection next d) := by
  cases d with
  | motion tag => exact .motion rfl named
  | vector axis =>
    cases measured : next.filter isLength with
    | none =>
      simp only [Command.ofDirection, measured]
      exact .axis rfl named measured
    | some distance =>
      simp only [Command.ofDirection, measured]
      exact .distance (Option.filter_eq_some_iff.mp measured).1 named measured

theorem gives_ofToken {token : String} {next : Option String} {step : CommandStep}
    (rule : Command.ofToken token next = step) : Gives next (taken token next step) step := by
  simp only [Command.ofToken] at rule
  split at rule
  · next s shape =>
    subst rule
    exact .shape rfl shape
  · next shape =>
    split at rule
    · next d direction =>
      subst rule
      exact gives_ofDirection direction next
    · next direction =>
      split at rule
      · next m material =>
        subst rule
        exact .material rfl material
      · next material =>
        split at rule
        · next length =>
          subst rule
          exact .extent rfl length
        · next length =>
          -- The word is a key word or of no kind.
          cases key : KeyWord.ofWord? (Text.lower token) with
          | some k =>
            cases next with
            | some argument =>
              simp only [Option.bind_some, KeyWord.note?_eq, key, Option.map_some] at rule
              subst rule
              exact .note rfl key rfl
            | none =>
              subst rule
              exact .lastKey rfl (Option.isSome_of_eq_some key) rfl
          | none =>
            have nothing : next.bind (Command.note? (Text.lower token)) = none := by
              cases next <;> simp [KeyWord.note?_eq, key]
            simp only [nothing] at rule
            subst rule
            refine .other rfl fun k => ?_
            cases k <;> simp [WordKind.holds, word, taken, shape, direction, material, length, key]

variable {next : Option String} {t : TokenStep} {step : CommandStep}

theorem Gives.takesNext_eq (gives : Gives next t step) : step.takesNext = t.argument.isSome := by
  cases gives with
  | distance behind | note behind => rw [behind]; rfl
  | shape alone | axis alone | motion alone | material alone | extent alone | lastKey alone
  | other alone => rw [alone]; rfl

theorem Gives.length_tokens (gives : Gives next t step) :
    t.tokens.length = if step.takesNext then 2 else 1 := by
  rw [gives.takesNext_eq, tokens]
  cases t.argument <;> rfl

/-! ## What a command changes -/

/-- What the word of a step is found as, if the step gives this command. -/
def kindOf : Command → Option WordKind
  | .shape _ => some .shape
  | .move _ _ | .motion _ => some .direction
  | .material _ => some .material
  | .extent _ => some .length
  | .note _ _ => some .key
  | .modifier _ => none

/-- A word that is found as something gives a command of this kind, unless it is a key word. -/
theorem Gives.kindOf_eq (gives : Gives next t step) {k : WordKind} (h : k.holds t.word)
    (other : k ≠ .key) : kindOf step.command = some k := by
  have only (k' : WordKind) (h' : k'.holds t.word) : k' = k := WordKind.unique h' h
  cases gives with
  | shape _ named => exact congrArg some (only .shape (Option.isSome_of_eq_some named))
  | axis _ named | distance _ named | motion _ named =>
    exact congrArg some (only .direction (Option.isSome_of_eq_some named))
  | material _ named =>
    exact congrArg some (only .material (Option.isSome_of_eq_some named))
  | extent _ measured => exact congrArg some (only .length measured)
  | note _ key => exact congrArg some (only .key (Option.isSome_of_eq_some key))
  | lastKey _ key => exact absurd (only .key key).symm other
  | other _ unknown =>
    rw [unknown k] at h
    cases h

/-- A key word gives something to note, unless it lacks its argument. -/
theorem Gives.kindOf_key (gives : Gives next t step) (h : WordKind.key.holds t.word) :
    kindOf step.command = some .key ∨ next = none ∧ t.argument = none := by
  have only (k : WordKind) (h' : k.holds t.word) : k = .key := WordKind.unique h' h
  cases gives with
  | note => exact .inl rfl
  | lastKey alone _ last => exact .inr ⟨last, alone⟩
  | shape _ named => cases only .shape (Option.isSome_of_eq_some named)
  | axis _ named | distance _ named | motion _ named =>
    cases only .direction (Option.isSome_of_eq_some named)
  | material _ named => cases only .material (Option.isSome_of_eq_some named)
  | extent _ measured => cases only .length measured
  | other _ unknown =>
    rw [unknown .key] at h
    cases h

/-- A step takes the token behind it exactly if that measures a direction or is noted. -/
theorem Gives.argument_isSome_iff (gives : Gives next t step) :
    t.argument.isSome ↔ t.TakesNext next := by
  constructor
  · intro some
    cases gives with
    | distance _ named measured =>
      obtain ⟨behind, length⟩ := Option.filter_eq_some_iff.mp measured
      exact .inl ⟨⟨_, named⟩, _, behind, length⟩
    | note _ key taken =>
      refine .inr ⟨?_, Option.isSome_of_eq_some taken⟩
      exact WordKind.mem_words_of_holds (k := .key) (Option.isSome_of_eq_some key) (by decide)
    | shape alone | axis alone | motion alone | material alone | extent alone | lastKey alone
    | other alone => simp [alone] at some
  · rintro (⟨⟨axis, vector⟩, distance, behind, length⟩ | ⟨listed, some⟩)
    · have kind := gives.kindOf_eq (k := .direction) (Option.isSome_of_eq_some vector) (by decide)
      cases gives with
      | distance behind => exact Option.isSome_of_eq_some behind
      | axis _ _ unmeasured => simp [behind, length] at unmeasured
      | motion _ named => cases named.symm.trans vector
      | _ => cases kind
    · cases gives.kindOf_key (WordKind.holds_key_of_mem listed) with
      | inl kind =>
        cases gives with
        | note behind => exact Option.isSome_of_eq_some behind
        | _ => cases kind
      | inr none => simp [none.1] at some

theorem Gives.shape_apply (gives : Gives next t step) (s : Statement) :
    (s.apply step.command).shape = t.shape?.elim s.shape id := by
  cases found : t.shape? with
  | some shape =>
    have kind := gives.kindOf_eq (k := .shape) (Option.isSome_of_eq_some found) (by decide)
    cases gives with
    | shape _ named => exact Option.some.inj (named.symm.trans found)
    | _ => cases kind
  | none =>
    cases gives with
    | shape _ named => cases named.symm.trans found
    | _ => simp only [Statement.apply, Option.elim_none]

theorem Gives.material_apply (gives : Gives next t step) (s : Statement) :
    (s.apply step.command).material = t.material?.elim s.material id := by
  cases found : t.material? with
  | some material =>
    have kind := gives.kindOf_eq (k := .material) (Option.isSome_of_eq_some found) (by decide)
    cases gives with
    | material _ named => exact Option.some.inj (named.symm.trans found)
    | _ => cases kind
  | none =>
    cases gives with
    | material _ named => cases named.symm.trans found
    | _ => simp only [Statement.apply, Option.elim_none]

theorem Gives.size_apply (gives : Gives next t step) (s : Statement) :
    (s.apply step.command).size = t.extent?.elim s.size .splat := by
  rw [extent?]
  cases measured : isLength t.word with
  | true =>
    have kind := gives.kindOf_eq (k := .length) measured (by decide)
    cases gives with
    | extent => rfl
    | _ => cases kind
  | false =>
    cases gives with
    | extent _ length => cases length.symm.trans measured
    | _ => simp only [Statement.apply, Bool.false_eq_true, if_false, Option.elim_none]

/-- A word that is found as something else is no direction. -/
theorem Gives.direction?_eq_none (gives : Gives next t step)
    (other : kindOf step.command ≠ some .direction) : t.direction? = none := by
  cases found : t.direction? with
  | none => rfl
  | some d =>
    have kind := gives.kindOf_eq (k := .direction) (Option.isSome_of_eq_some found) (by decide)
    exact absurd kind other

theorem Gives.position_apply (gives : Gives next t step) (s : Statement) :
    (s.apply step.command).position = t.offset?.elim s.position id := by
  have others := gives.direction?_eq_none
  cases gives with
  | axis alone named | motion alone named =>
    rw [offset?, named, alone]
    simp only [Statement.apply, Option.elim_none, Option.elim_some, id]
  | distance behind named =>
    rw [offset?, named, behind]
    simp only [Statement.apply, Option.elim_some, id]
  | _ =>
    rw [offset?, others nofun]
    simp only [Statement.apply, Option.elim_none]

/-- A word that is found as something is none of the others, unless it lacks its argument. -/
theorem isOther_eq_false {k : WordKind} (h : k.holds t.word)
    (whole : k ≠ .key ∨ t.argument.isSome) : t.isOther = false := by
  rw [isOther, List.all_eq_false]
  refine ⟨k, by cases k <;> decide, ?_⟩
  rcases whole with other | argument
  · simp [h, other]
  · simp [h, Option.isNone_eq_false_iff.mpr argument]

theorem modifier?_of_direction?_eq_none (none : t.direction? = none) :
    t.modifier? = if t.isOther then some t.word else Option.none := by
  rw [modifier?, none]

theorem Gives.modifiers_apply (gives : Gives next t step) (s : Statement) :
    (s.apply step.command).modifiers = s.modifiers ++ t.modifier?.toList := by
  have others := gives.direction?_eq_none
  have unused (k : WordKind) (h : k.holds t.word) (other : k ≠ .key) : t.isOther = false :=
    isOther_eq_false h (.inl other)
  cases gives with
  | motion _ named => simp only [modifier?, named, Statement.apply, Option.toList_some]
  | axis _ named | distance _ named =>
    have kind := unused .direction (Option.isSome_of_eq_some named) (by decide)
    simp [modifier?, named, kind, Statement.apply]
  | shape _ named =>
    have kind := unused .shape (Option.isSome_of_eq_some named) (by decide)
    simp [modifier?_of_direction?_eq_none (others nofun), kind, Statement.apply]
  | material _ named =>
    have kind := unused .material (Option.isSome_of_eq_some named) (by decide)
    simp [modifier?_of_direction?_eq_none (others nofun), kind, Statement.apply]
  | extent _ measured =>
    have kind := unused .length measured (by decide)
    simp [modifier?_of_direction?_eq_none (others nofun), kind, Statement.apply]
  | note behind key =>
    have kind := isOther_eq_false (t := t) (k := .key) (Option.isSome_of_eq_some key)
      (.inr (Option.isSome_of_eq_some behind))
    simp [modifier?_of_direction?_eq_none (others nofun), kind, Statement.apply]
  | lastKey alone key =>
    have only : t.isOther = true := by
      rw [isOther, List.all_eq_true]
      intro k _
      cases h : k.holds t.word with
      | false => rfl
      | true =>
        cases WordKind.unique h key
        rw [alone]
        rfl
    simp [modifier?_of_direction?_eq_none (others nofun), only, Statement.apply]
  | other _ unknown =>
    have only : t.isOther = true := by simp [isOther, unknown]
    simp [modifier?_of_direction?_eq_none (others nofun), only, Statement.apply]

/-- Only key words have arguments that are noted. -/
theorem Gives.argumentOf?_eq_none (gives : Gives next t step) {k : KeyWord} (hk : k ∈ KeyWord.all)
    (other : kindOf step.command ≠ some .key) : t.argumentOf? k.word = none := by
  rw [argumentOf?]
  split
  · next named =>
    have key : WordKind.key.holds t.word := named ▸ KeyWord.isSome_ofWord? hk
    exact ((gives.kindOf_key key).resolve_left other).2
  · rfl

theorem Gives.details_apply (gives : Gives next t step) {k : KeyWord} (hk : k ∈ KeyWord.all)
    (s : Statement) : (s.apply step.command).details.get? k.name =
      (t.argumentOf? k.word).elim (s.details.get? k.name) fun argument =>
        some (k.value argument) := by
  have others := gives.argumentOf?_eq_none hk
  cases gives with
  | @note k' argument behind key =>
    obtain ⟨listed, named⟩ := KeyWord.of_ofWord? key
    simp only [Statement.apply, SortedMap.get?_insert]
    by_cases same : k = k'
    · subst same
      simp [argumentOf?, named, behind]
    · obtain ⟨word, name⟩ := KeyWord.apart hk listed same
      simp [argumentOf?, ← named, Ne.symm word, name]
  | axis | distance | shape | motion | material | extent | lastKey | other =>
    rw [others nofun]
    simp only [Statement.apply, Option.elim_none]

/-- Nothing is noted under other names. -/
theorem Gives.others_apply (gives : Gives next t step) {name : String}
    (other : ∀ k ∈ KeyWord.all, k.name ≠ name) (s : Statement) :
    (s.apply step.command).details.get? name = s.details.get? name := by
  cases gives with
  | note _ key =>
    have different := other _ (KeyWord.of_ofWord? key).1
    simp only [Statement.apply, SortedMap.get?_insert, Ne.symm different, if_false]
  | axis | distance | shape | motion | material | extent | lastKey | other =>
    simp only [Statement.apply]

end TokenStep

end LayeredScene
