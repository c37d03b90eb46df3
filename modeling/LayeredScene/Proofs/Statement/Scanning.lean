import LayeredScene.Statement.Command
import Mathlib.Data.List.Basic

/-! # Scanning with indices

The commands of a statement can be found by an index that moves over its tokens, with every slice
and every access checked: none of them fails, and what is found is what the recursion over the
tokens gives.  In the same way the text behind a measurement begins inside the token, since the
number and the unit stand before it.
-/

namespace LayeredScene

/-! ## Tokens -/

/-- The part of a list from an index on, if the index is not behind its end. -/
def sliceFrom? {α : Type} (xs : List α) (i : Nat) : Option (List α) :=
  if i ≤ xs.length then some (xs.drop i) else none

namespace Command

/-- The commands that are found from an index on.  A command moves the index by the tokens that it
    takes, and the scan ends where there are no more of them. -/
def scanFrom? (tokens : List String) (i : Nat) : Option (List Command) :=
  if i < tokens.length then do
    let left ← sliceFrom? tokens i
    let token ← left[0]?
    let step := ofToken token left[1]?
    let later ← scanFrom? tokens (i + if step.takesNext then 2 else 1)
    return step.command :: later
  else some []
termination_by tokens.length - i
decreasing_by
  split <;> omega

/-- The first command takes one or two tokens, and the others are those of the tokens behind. -/
theorem ofTokens_cons (token : String) (rest : List String) :
    ofTokens (token :: rest) = (ofToken token rest[0]?).command ::
      ofTokens (rest.drop (if (ofToken token rest[0]?).takesNext then 1 else 0)) := by
  cases rest with
  | nil =>
    rw [List.drop_nil]
    rfl
  | cons next rest =>
    rw [ofTokens]
    cases taken : (ofToken token (some next)).takesNext <;> simp [taken]

/-- The commands from an index on: that of the token there, and those from where its step ends. -/
theorem ofTokens_drop {tokens : List String} {i : Nat} {token : String}
    (here : tokens[i]? = some token) :
    ofTokens (tokens.drop i) = (ofToken token tokens[i + 1]?).command ::
      ofTokens (tokens.drop (i + if (ofToken token tokens[i + 1]?).takesNext then 2 else 1)) := by
  obtain ⟨inside, rfl⟩ := List.getElem?_eq_some_iff.mp here
  rw [List.drop_eq_getElem_cons inside, ofTokens_cons, List.getElem?_drop, List.drop_drop]
  cases (ofToken tokens[i] tokens[i + 1]?).takesNext <;> rfl

/-- Scanning with indices never leaves the tokens, and finds the commands of those from the index
    on. -/
theorem scanFrom?_eq (tokens : List String) (i : Nat) :
    scanFrom? tokens i = some (ofTokens (tokens.drop i)) := by
  fun_induction scanFrom? tokens i with
  | case1 i inside ih =>
    have here := List.getElem?_eq_getElem inside
    have slice : sliceFrom? tokens i = some (tokens.drop i) := if_pos (Nat.le_of_lt inside)
    have later := ih (tokens.drop i) tokens[i]
    simp only [dite_eq_ite, List.getElem?_drop] at later
    rw [slice, ofTokens_drop here]
    simp only [Option.bind_eq_bind, Option.bind_some, List.getElem?_drop, Nat.add_zero, here, later,
      Option.pure_def]
  | case2 i outside =>
    rw [List.drop_eq_nil_iff.mpr (Nat.le_of_not_lt outside)]
    rfl

end Command

/-! ## Measurements -/

theorem LengthUnit.eq_append_of_cut? {cs rest : List Char} {unit : LengthUnit}
    (h : cut? cs = some (unit, rest)) : cs = unit.suffix.toList ++ rest := by
  obtain ⟨u, found, cut⟩ := Option.map_eq_some_iff.mp h
  obtain ⟨rfl, rfl⟩ := Prod.mk.inj cut
  have starts := List.find?_some (p := fun u : LengthUnit => u.suffix.toList.isPrefixOf cs) found
  obtain ⟨rest, rfl⟩ := List.isPrefixOf_iff_prefix.mp starts
  rw [← String.length_toList, List.drop_left]

/-- What follows a measurement is the slice of the token behind the number and the unit, which
    does not begin behind the end of the token. -/
theorem Measurement.sliceFrom?_of_scan? {cs : List Char} {m : Measurement}
    (h : scan? cs = some m) :
    sliceFrom? cs ((cs.takeWhile isNumeric ++ m.unit.suffix.toList).length) = some m.rest := by
  obtain ⟨value, -, h⟩ := Option.bind_eq_some_iff.mp h
  obtain ⟨⟨unit, rest⟩, cut, h⟩ := Option.bind_eq_some_iff.mp h
  obtain rfl := Option.some.inj h
  have token : cs = cs.takeWhile isNumeric ++ unit.suffix.toList ++ rest := by
    rw [List.append_assoc, ← LengthUnit.eq_append_of_cut? cut, List.takeWhile_append_dropWhile]
  generalize cs.takeWhile isNumeric ++ unit.suffix.toList = front at token
  rw [token, sliceFrom?, if_pos (by simp), List.drop_left]

end LayeredScene
