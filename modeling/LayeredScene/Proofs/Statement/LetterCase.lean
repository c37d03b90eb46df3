import LayeredScene.Proofs.Text.LetterCase
import LayeredScene.Statement.Line

/-! # Statements that differ only in letter case

The arguments of `attach` and `repeat` are the only part of a line that a statement keeps as it is
written.  With the letters of these lowered too, lowering the letters of a line lowers those of its
statement: each token gives its command up to these arguments, whether it takes the next token or
not, and the commands are applied alike.
-/

namespace LayeredScene

open Text (lowerAscii)

/-! ## Measurements -/

@[simp] theorem lengthOf_lowerAscii (token : String) :
    lengthOf (lowerAscii token) = lengthOf token := by
  rw [lengthOf, Text.lower_lowerAscii, lengthOf]

@[simp] theorem isLength_lowerAscii (token : String) :
    isLength (lowerAscii token) = isLength token := by
  rw [isLength, Text.lower_lowerAscii, isLength]

/-! ## Noted values -/

namespace SortedMap

variable {α β : Type}

def map (f : α → β) (m : SortedMap α) : SortedMap β :=
  ⟨m.entries.map fun e => (e.1, f e.2), List.pairwise_map.mpr m.sorted⟩

theorem insertEntry_map (f : α → β) (key : String) (value : α) (entries : List (String × α)) :
    insertEntry key (f value) (entries.map fun e => (e.1, f e.2)) =
      (insertEntry key value entries).map fun e => (e.1, f e.2) := by
  induction entries with
  | nil => rfl
  | cons e entries ih =>
    simp only [insertEntry, List.map_cons, ih]
    split
    · rfl
    · split <;> rfl

theorem map_insert (f : α → β) (m : SortedMap α) (key : String) (value : α) :
    (m.insert key value).map f = (m.map f).insert key (f value) := by
  simp only [map, insert, insertEntry_map]

theorem get?_map (f : α → β) (m : SortedMap α) (key : String) :
    (m.map f).get? key = (m.get? key).map f := by
  simp only [get?, map]
  induction m.entries with
  | nil => rfl
  | cons e entries ih =>
    obtain ⟨k, value⟩ := e
    simp only [List.map_cons, List.lookup_cons, ih]
    cases key == k <;> rfl

end SortedMap

/-- The value with the letters of a text that it keeps in lower case. -/
def Detail.foldCase : Detail → Detail
  | length meters => length meters
  | count n => count n
  | reference name => reference (lowerAscii name)
  | text s => text (lowerAscii s)

/-- The values are the same except for the letter case of a text. -/
inductive Detail.SameButCase : Detail → Detail → Prop where
  | length (meters : Float) : SameButCase (.length meters) (.length meters)
  | count (n : UInt32) : SameButCase (.count n) (.count n)
  | reference {s t : String} : Text.SameButCase s t → SameButCase (.reference s) (.reference t)
  | text {s t : String} : Text.SameButCase s t → SameButCase (.text s) (.text t)

theorem Detail.sameButCase_of_foldCase_eq {d e : Detail} (same : d.foldCase = e.foldCase) :
    SameButCase d e := by
  cases d with
  | length meters => cases e <;> cases same; exact .length meters
  | count n => cases e <;> cases same; exact .count n
  | reference s =>
    cases e with
    | reference t => exact .reference (Text.sameButCase_iff.mpr (Detail.reference.inj same))
    | _ => cases same
  | text s =>
    cases e with
    | text t => exact .text (Text.sameButCase_iff.mpr (Detail.text.inj same))
    | _ => cases same

/-! ## Commands -/

namespace Command

def foldCase : Command → Command
  | note key value => note key value.foldCase
  | c => c

theorem repetitions_lowerAscii (argument : String) :
    repetitions (lowerAscii argument) = (repetitions argument).foldCase := by
  rw [repetitions, Text.wholeNumber?_lowerAscii, repetitions]
  cases Text.wholeNumber? UInt32.size argument <;> rfl

theorem note?_lowerAscii (word argument : String) :
    note? word (lowerAscii argument) = (note? word argument).map foldCase := by
  simp only [note?, lengthOf_lowerAscii, repetitions_lowerAscii, apply_ite (Option.map foldCase)]
  rfl

end Command

def CommandStep.foldCase (step : CommandStep) : CommandStep :=
  { step with command := step.command.foldCase }

namespace Command

theorem ofDirection_lowerAscii (next : Option String) (d : Direction) :
    ofDirection (next.map lowerAscii) d = (ofDirection next d).foldCase := by
  cases d with
  | motion tag => rfl
  | vector axis =>
    cases next with
    | none => rfl
    | some token =>
      simp only [ofDirection, Option.map_some, Option.filter_some, isLength_lowerAscii]
      cases isLength token
      · rfl
      · simp [CommandStep.foldCase, foldCase]

/-- What a token says does not depend on its case, and keeps only that of the next token. -/
theorem ofToken_lowerAscii (token : String) (next : Option String) :
    ofToken (lowerAscii token) (next.map lowerAscii) = (ofToken token next).foldCase := by
  have noted : (next.map lowerAscii).bind (note? (Text.lower token)) =
      (next.bind (note? (Text.lower token))).map foldCase := by
    cases next with
    | none => rfl
    | some argument => exact note?_lowerAscii _ argument
  simp only [ofToken, Text.lower_lowerAscii, ofDirection_lowerAscii, noted]
  cases Shape.ofKeyword? (Text.lower token) with
  | some s => rfl
  | none =>
    cases Direction.ofWord? (Text.lower token) with
    | some d => rfl
    | none =>
      cases Material.ofWord? (Text.lower token) with
      | some m => rfl
      | none =>
        cases isLength (Text.lower token) with
        | true => rfl
        | false => cases next.bind (note? (Text.lower token)) <;> rfl

theorem ofTokens_lowerAscii (tokens : List String) :
    ofTokens (tokens.map lowerAscii) = (ofTokens tokens).map foldCase := by
  fun_induction ofTokens tokens with
  | case1 => rfl
  | case2 token =>
    have folded := ofToken_lowerAscii token none
    exact congrArg (fun step => [step.command]) folded
  | case3 token next rest step taken left =>
    have folded : ofToken (lowerAscii token) (some (lowerAscii next)) = step.foldCase :=
      ofToken_lowerAscii token (some next)
    rw [List.map_cons] at left
    simp only [List.map_cons, ofTokens, folded, CommandStep.foldCase, taken, left,
      apply_ite (List.map foldCase)]

end Command

/-! ## Statements -/

namespace Statement

/-- The statement with the letters of the arguments that it keeps in lower case. -/
def foldCase (s : Statement) : Statement :=
  { s with details := s.details.map Detail.foldCase }

/-- The statements are the same except for the letter case of the texts among their details. -/
structure SameButCase (s t : Statement) : Prop where
  others : { s with details := .empty } = { t with details := .empty }
  details : List.Forall₂ (fun d e => d.1 = e.1 ∧ Detail.SameButCase d.2 e.2)
    s.details.entries t.details.entries

theorem sameButCase_of_foldCase_eq {s t : Statement} (same : s.foldCase = t.foldCase) :
    SameButCase s t := by
  have others : { s.foldCase with details := .empty } = { t.foldCase with details := .empty } := by
    rw [same]
  have details := congrArg (·.details.entries) same
  refine ⟨others, (map_eq_map_iff_forall₂.mp details).imp fun d e same => ?_⟩
  obtain ⟨key, value⟩ := Prod.mk.inj same
  exact ⟨key, Detail.sameButCase_of_foldCase_eq value⟩

theorem apply_foldCase (s : Statement) (c : Command) :
    s.foldCase.apply c.foldCase = (s.apply c).foldCase := by
  cases c with
  | move axis distance => cases distance <;> rfl
  | note key value => simp only [apply, Command.foldCase, foldCase, SortedMap.map_insert]
  | _ => rfl

theorem foldl_apply_foldCase (commands : List Command) (s : Statement) :
    (commands.map Command.foldCase).foldl apply s.foldCase =
      (commands.foldl apply s).foldCase := by
  rw [List.foldl_map]
  exact List.foldl_hom foldCase apply_foldCase

theorem foldCase_plain (objectType layer : String) :
    (plain objectType layer).foldCase = plain objectType layer := rfl

theorem ofSegments_lowerAscii (objectType layer commands : String) :
    ofSegments (lowerAscii objectType) (lowerAscii layer) (lowerAscii commands) =
      (ofSegments objectType layer commands).foldCase := by
  rw [ofSegments, Text.upper_lowerAscii, Text.lower_lowerAscii, Text.words_lowerAscii,
    Command.ofTokens_lowerAscii, ← foldCase_plain, foldl_apply_foldCase, ofSegments]

end Statement

theorem segments_lowerAscii (line : String) :
    segments (lowerAscii line) = (segments line).map lowerAscii := by
  rw [segments, Text.split_lowerAscii (by decide), List.map_map, segments, List.map_map]
  exact List.map_congr_left fun segment _ => Text.trim_lowerAscii segment

theorem Statement.ofLine_lowerAscii (line : String) :
    ofLine (lowerAscii line) = (ofLine line).map foldCase := by
  rw [ofLine, segments_lowerAscii, ofLine]
  -- A line has as many segments as before, and three make a statement.
  match segments line with
  | [] | [_] | [_, _] => rfl
  | objectType :: layer :: commands :: _ =>
    exact congrArg Except.ok (ofSegments_lowerAscii objectType layer commands)

end LayeredScene
