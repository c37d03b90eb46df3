import LayeredScene.Proofs.Positions
import LayeredScene.Proofs.Source.Lines
import LayeredScene.Proofs.Statement.Scanning
import LayeredScene.Proofs.Statement.Steps

/-! # The loop over the tokens

The commands of a line are found by a loop over its tokens, each round of which makes a step
(`Command.Loop`).  The steps take every token once, and each field of the statement can be read off
them: the last step that says something of the field counts.  What holds of one round is known from
the step, so that every property of a run is an induction over its rounds.
-/

namespace LayeredScene

/-! ## The rounds of the loop -/

namespace Command

/-- The loop over some tokens, from an index and a statement to those that it ends with, and the
    steps that it makes on the way.  A round looks at the token at the index and at the one behind
    it, and the loop ends at the first index that is not inside. -/
inductive Loop (tokens : List String) :
    Nat → Statement → List TokenStep → Nat → Statement → Prop where
  | stop {i : Nat} {s : Statement} (outside : tokens.length ≤ i) : Loop tokens i s [] i s
  | round {i j : Nat} {s s' : Statement} {token : String} {step : CommandStep}
      {steps : List TokenStep} (here : tokens[i]? = some token)
      (made : ofToken token tokens[i + 1]? = step)
      (rest : Loop tokens (i + if step.takesNext then 2 else 1) (s.apply step.command) steps j s') :
      Loop tokens i s (.taken token tokens[i + 1]? step :: steps) j s'

variable {tokens : List String} {i j : Nat} {s s' : Statement} {steps : List TokenStep}

/-- The loop ends, and its result is that of the commands. -/
theorem exists_loop (tokens : List String) (i : Nat) (s : Statement) :
    ∃ steps j, Loop tokens i s steps j ((ofTokens (tokens.drop i)).foldl Statement.apply s) := by
  by_cases inside : i < tokens.length
  · have here := List.getElem?_eq_getElem inside
    obtain ⟨steps, j, rest⟩ := exists_loop tokens
      (i + if (ofToken tokens[i] tokens[i + 1]?).takesNext then 2 else 1)
      (s.apply (ofToken tokens[i] tokens[i + 1]?).command)
    rw [ofTokens_drop here, List.foldl_cons]
    exact ⟨_, j, .round here rfl rest⟩
  · rw [List.drop_eq_nil_iff.mpr (Nat.le_of_not_lt inside)]
    exact ⟨[], i, .stop (Nat.le_of_not_lt inside)⟩
termination_by tokens.length - i
decreasing_by
  split <;> omega

/-- A run takes the tokens one after the other and stops right behind the last one. -/
theorem Loop.tokens_eq (loop : Loop tokens i s steps j s') (start : i ≤ tokens.length) :
    steps.flatMap TokenStep.tokens = tokens.drop i ∧ j = tokens.length := by
  induction loop with
  | stop outside =>
    refine ⟨?_, Nat.le_antisymm start outside⟩
    rw [List.drop_eq_nil_iff.mpr outside]
    rfl
  | @round i j s s' token step steps here made rest ih =>
    have gives := TokenStep.gives_ofToken made
    obtain ⟨inside, rfl⟩ := List.getElem?_eq_some_iff.mp here
    rw [List.flatMap_cons, List.drop_eq_getElem_cons inside]
    cases takes : step.takesNext with
    | false =>
      simp only [takes, Bool.false_eq_true, if_false] at ih
      obtain ⟨later, stops⟩ := ih inside
      refine ⟨?_, stops⟩
      rw [later, TokenStep.tokens, TokenStep.taken, takes]
      rfl
    | true =>
      simp only [takes, if_true] at ih
      -- A step that takes two tokens finds a second one.
      have second := gives.takesNext_eq.symm.trans takes
      simp only [TokenStep.taken, takes, if_true] at second
      obtain ⟨next, hnext⟩ := Option.isSome_iff_exists.mp second
      obtain ⟨inside', rfl⟩ := List.getElem?_eq_some_iff.mp hnext
      obtain ⟨later, stops⟩ := ih inside'
      refine ⟨?_, stops⟩
      rw [later, TokenStep.tokens, TokenStep.taken, takes, hnext, List.drop_eq_getElem_cons inside']
      rfl

/-- Which steps of a run take two tokens. -/
theorem Loop.takesNext_iff (loop : Loop tokens i s steps j s') {n : Nat} {t : TokenStep}
    (ht : steps[n]? = some t) : t.argument.isSome ↔
      t.TakesNext tokens[i + joinedBefore TokenStep.tokens steps n + 1]? := by
  induction loop generalizing n with
  | stop => cases ht
  | @round i j s s' token step steps here made rest ih =>
    have gives := TokenStep.gives_ofToken made
    cases n with
    | zero =>
      obtain rfl := Option.some.inj ht
      exact gives.argument_isSome_iff
    | succ n =>
      have front : joinedBefore TokenStep.tokens
          (.taken token tokens[i + 1]? step :: steps) (n + 1) =
          (if step.takesNext then 2 else 1) + joinedBefore TokenStep.tokens steps n := by
        rw [joinedBefore, List.take_succ_cons, List.flatMap_cons, List.length_append,
          gives.length_tokens, joinedBefore]
      have later := ih ht
      rw [front, ← Nat.add_assoc]
      exact later

theorem Loop.last_counts {α β : Type} {f : Statement → β} {f? : TokenStep → Option α}
    {put : α → β} (one : ∀ next t step, TokenStep.Gives next t step → ∀ s : Statement,
      f (s.apply step.command) = (f? t).elim (f s) put)
    (loop : Loop tokens i s steps j s') :
    f s' = (steps.filterMap f?).getLast?.elim (f s) put := by
  induction loop with
  | stop => rfl
  | @round i j s s' token step steps here made rest ih =>
    have gives := TokenStep.gives_ofToken made
    rw [ih, one _ _ _ gives]
    cases said : f? (.taken token tokens[i + 1]? step) with
    | none =>
      rw [List.filterMap_cons_none said]
      rfl
    | some a =>
      rw [List.filterMap_cons_some said, List.getLast?_cons]
      cases (steps.filterMap f?).getLast? <;> rfl

theorem Loop.modifiers_eq (loop : Loop tokens i s steps j s') :
    s'.modifiers = s.modifiers ++ steps.filterMap TokenStep.modifier? := by
  induction loop with
  | stop => exact (List.append_nil _).symm
  | @round i j s s' token step steps here made rest ih =>
    have gives := TokenStep.gives_ofToken made
    rw [ih, gives.modifiers_apply, List.append_assoc, List.filterMap_cons]
    cases TokenStep.modifier? (.taken token tokens[i + 1]? step) <;> rfl

end Command

/-! ## Lines -/

/-- The steps are made of the tokens, each of which is in one of them, and a step has two tokens
    exactly if its first one takes the one behind it. -/
structure Covers (tokens : List String) (steps : List TokenStep) : Prop where
  tokens_eq : steps.flatMap TokenStep.tokens = tokens
  takesNext_iff : ∀ (n : Nat) (t : TokenStep), steps[n]? = some t →
    (t.argument.isSome ↔ t.TakesNext tokens[joinedBefore TokenStep.tokens steps n + 1]?)

/-- What the steps say of a statement.  Of several that say something of a field the last one
    counts, and the modifiers are those of all steps in order. -/
structure LastCounts (steps : List TokenStep) (s : Statement) : Prop where
  shape : s.shape = (steps.filterMap TokenStep.shape?).getLast?.getD .cube
  material : s.material = (steps.filterMap TokenStep.material?).getLast?.getD .wood
  position : s.position = (steps.filterMap TokenStep.offset?).getLast?.getD (.splat 0)
  size : s.size = .splat ((steps.filterMap TokenStep.extent?).getLast?.getD 1)
  diameter : s.details.get? "diameter" =
    (steps.filterMap (TokenStep.argumentOf? "diameter")).getLast?.map fun argument =>
      .length (lengthOf argument)
  repetitions : s.details.get? "repeat" =
    (steps.filterMap (TokenStep.argumentOf? "repeat")).getLast?.map Command.repetitions
  attachment : s.details.get? "attach_to" =
    (steps.filterMap (TokenStep.argumentOf? "attach")).getLast?.map .reference
  others : ∀ name ∉ ["diameter", "repeat", "attach_to"], s.details.get? name = none
  modifiers : s.modifiers = steps.filterMap TokenStep.modifier?

namespace Command

theorem Loop.details_eq {objectType layer : String}
    (loop : Loop tokens i (.plain objectType layer) steps j s) {k : KeyWord}
    (hk : k ∈ KeyWord.all) : s.details.get? k.name =
      (steps.filterMap (TokenStep.argumentOf? k.word)).getLast?.map k.value := by
  rw [loop.last_counts (f := fun s => s.details.get? k.name)
    fun _ _ _ gives => gives.details_apply hk]
  cases (steps.filterMap (TokenStep.argumentOf? k.word)).getLast? <;> rfl

/-- What no step says anything of stays as it is. -/
theorem Loop.unchanged {β : Type} {f : Statement → β}
    (one : ∀ next t step, TokenStep.Gives next t step → ∀ s : Statement,
      f (s.apply step.command) = f s)
    (loop : Loop tokens i s steps j s') : f s' = f s := by
  induction loop with
  | stop => rfl
  | round here made rest ih => rw [ih, one _ _ _ (TokenStep.gives_ofToken made)]

/-- What a run makes of a statement that is as plain as one of its object and layer can be. -/
theorem Loop.lastCounts {objectType layer : String}
    (loop : Loop tokens i (.plain objectType layer) steps j s) : LastCounts steps s where
  shape := by
    rw [loop.last_counts fun _ _ _ gives => gives.shape_apply]
    cases (steps.filterMap TokenStep.shape?).getLast? <;> rfl
  material := by
    rw [loop.last_counts fun _ _ _ gives => gives.material_apply]
    cases (steps.filterMap TokenStep.material?).getLast? <;> rfl
  position := by
    rw [loop.last_counts fun _ _ _ gives => gives.position_apply]
    cases (steps.filterMap TokenStep.offset?).getLast? <;> rfl
  size := by
    rw [loop.last_counts fun _ _ _ gives => gives.size_apply]
    cases (steps.filterMap TokenStep.extent?).getLast? <;> rfl
  diameter := loop.details_eq (k := ⟨"diameter", "diameter", _⟩) (.head _)
  repetitions := loop.details_eq (k := ⟨"repeat", "repeat", _⟩) (.tail _ (.head _))
  attachment := loop.details_eq (k := ⟨"attach", "attach_to", _⟩) (.tail _ (.tail _ (.head _)))
  others name other := by
    have unnamed : ∀ k ∈ KeyWord.all, k.name ≠ name := by
      rintro k hk rfl
      exact other (List.mem_map_of_mem (f := (·.name)) hk)
    rw [loop.unchanged (f := fun s => s.details.get? name)
      fun _ _ _ gives => gives.others_apply unnamed]
    rfl
  modifiers := by
    rw [loop.modifiers_eq]
    rfl

theorem Loop.covers (loop : Loop tokens 0 s steps j s') : Covers tokens steps where
  tokens_eq := (loop.tokens_eq (Nat.zero_le _)).1
  takesNext_iff n t ht := by
    rw [loop.takesNext_iff ht, Nat.zero_add]

/-- There is only one run. -/
theorem Loop.unique {steps' : List TokenStep} {j' : Nat} {s'' : Statement}
    (loop : Loop tokens i s steps j s') (loop' : Loop tokens i s steps' j' s'') :
    steps = steps' ∧ s' = s'' := by
  induction loop generalizing steps' with
  | stop outside =>
    cases loop' with
    | stop => exact ⟨rfl, rfl⟩
    | round here => exact absurd (lt_length_of_getElem? here) (Nat.not_lt.mpr outside)
  | round here made rest ih =>
    cases loop' with
    | stop outside => exact absurd (lt_length_of_getElem? here) (Nat.not_lt.mpr outside)
    | round here' made' rest' =>
      cases Option.some.inj (here.symm.trans here')
      cases made.symm.trans made'
      obtain ⟨later, result⟩ := ih rest'
      exact ⟨by rw [later], result⟩

end Command

namespace Statement

/-- A line with two separators is read by a loop over the tokens of its third segment.  It ends
    right behind the last token, its steps take every token once, a step takes two exactly if its
    first one is a direction with a measurement behind it or a key word with anything behind it, and
    what the statement says is what the last steps say. -/
theorem ofLine_by_steps (line : String) (separated : 2 ≤ separators line) :
    ∃ objectType layer commands rest s steps,
      segments line = objectType :: layer :: commands :: rest ∧
      ofLine line = .ok s ∧
      Command.Loop (Text.words commands) 0 (plain (Text.upper objectType) (Text.lower layer))
        steps (Text.words commands).length s ∧
      (∀ steps' j s', Command.Loop (Text.words commands) 0
        (plain (Text.upper objectType) (Text.lower layer)) steps' j s' → steps' = steps) ∧
      Covers (Text.words commands) steps ∧ LastCounts steps s := by
  obtain ⟨objectType, layer, commands, rest, parts⟩ := exists_segments separated
  obtain ⟨steps, j, loop⟩ := Command.exists_loop (Text.words commands) 0
    (plain (Text.upper objectType) (Text.lower layer))
  rw [List.drop_zero] at loop
  have stops := (loop.tokens_eq (Nat.zero_le _)).2
  refine ⟨objectType, layer, commands, rest, ofSegments objectType layer commands, steps, parts, ?_,
    stops ▸ loop, ?_, loop.covers, loop.lastCounts⟩
  · rw [ofLine, parts]
  · intro steps' j' s' loop'
    exact (loop'.unique loop).1

def chairLine : String :=
  "Chair > seat > forward 50cm CUBE diameter repeat attach box 5cm twist sphere repeat"

/-- A measurement behind a direction is no size, the words behind key words mean nothing else, and a
    key word at the end is a modifier. -/
theorem ofLine_by_steps_chair :
    2 ≤ separators chairLine ∧
    ∃ s steps, ofLine chairLine = .ok s ∧
      Covers ["forward", "50cm", "CUBE", "diameter", "repeat", "attach", "box", "5cm", "twist",
        "sphere", "repeat"] steps ∧
      LastCounts steps s ∧
      s.shape = .sphere ∧ s.details.get? "repeat" = none ∧
      s.details.get? "attach_to" = some (.reference "box") ∧
      s.modifiers = ["twist_transform", "repeat"] := by
  have separated : 2 ≤ separators chairLine := by decide +kernel
  obtain ⟨objectType, layer, commands, rest, s, steps, parts, read, -, -, covers, counts⟩ :=
    ofLine_by_steps chairLine separated
  have third : (segments chairLine)[2]?.map Text.words = some ["forward", "50cm", "CUBE",
      "diameter", "repeat", "attach", "box", "5cm", "twist", "sphere", "repeat"] := by
    decide +kernel
  have result : (ofLine chairLine).toOption.map (fun s => (s.shape, s.details.get? "repeat",
      s.details.get? "attach_to", s.modifiers)) =
      some (.sphere, none, some (.reference "box"), ["twist_transform", "repeat"]) := by
    decide +kernel
  rw [parts] at third
  rw [read] at result
  have tokens : Text.words commands = _ := Option.some.inj third
  simp only [Except.toOption, Option.map_some, Option.some.injEq, Prod.mk.injEq] at result
  exact ⟨separated, s, steps, read, tokens ▸ covers, counts, result⟩

end Statement

end LayeredScene
