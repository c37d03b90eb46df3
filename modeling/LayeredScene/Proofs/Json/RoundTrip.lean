import LayeredScene.Proofs.Json.Spellings

/-! # What is written as JSON is read back

What is written of a value spells it, and every spelling is read; what is left to say is when the
tree of a value has nothing wrapped in it.  The reader gives up on values that are nested too
deeply, so the nesting of the value is bounded.
-/

namespace LayeredScene

mutual

/-- How many lists and objects stand inside one another. -/
def Json.nesting : Json → Nat
  | .list items => nestingItems items + 1
  | .object members => nestingMembers members + 1
  | _ => 0

def Json.nestingItems : List Json → Nat
  | [] => 0
  | x :: xs => max (nesting x) (nestingItems xs)

def Json.nestingMembers : List (String × Json) → Nat
  | [] => 0
  | (_, x) :: xs => max (nesting x) (nestingMembers xs)

end

theorem Scan.enclose_of_lt {depth : Nat} (fits : depth + 1 < depthLimit) (d : Draft) :
    enclose depth d = d := by
  rw [enclose, if_pos fits]

namespace Draft

mutual

/-- A value that is not nested too deeply is kept as it is. -/
theorem within_eq_ofJson {depth : Nat} (j : Json) (fits : depth + j.nesting < depthLimit) :
    within depth j = ofJson j := by
  cases j with
  | null | bool | number | text => rw [within, ofJson]
  | list items =>
    rw [Json.nesting] at fits
    rw [within, ofJson, itemsWithin_eq_ofItems items (by omega), Scan.enclose_of_lt (by omega)]
  | object members =>
    rw [Json.nesting] at fits
    rw [within, ofJson, membersWithin_eq_ofMembers members (by omega),
      Scan.enclose_of_lt (by omega)]

theorem itemsWithin_eq_ofItems {depth : Nat} (items : List Json)
    (fits : depth + Json.nestingItems items < depthLimit) :
    itemsWithin depth items = ofItems items := by
  cases items with
  | nil => rw [itemsWithin, ofItems]
  | cons x xs =>
    rw [Json.nestingItems] at fits
    rw [itemsWithin, ofItems, within_eq_ofJson x (by omega), itemsWithin_eq_ofItems xs (by omega)]

theorem membersWithin_eq_ofMembers {depth : Nat} (members : List (String × Json))
    (fits : depth + Json.nestingMembers members < depthLimit) :
    membersWithin depth members = ofMembers members := by
  cases members with
  | nil => rw [membersWithin, ofMembers]
  | cons m ms =>
    rw [Json.nestingMembers] at fits
    rw [membersWithin, ofMembers, within_eq_ofJson m.2 (by omega),
      membersWithin_eq_ofMembers ms (by omega)]

end

end Draft

/-- What is written is read back, however many spaces follow it. -/
theorem Document.read_render (layout : Json.Layout) (j : Json) (shallow : j.nesting < depthLimit)
    (count : Nat) :
    Document.read (j.render layout ++ String.ofList (List.replicate count ' ')) =
      ⟨.ofJson j, false⟩ := by
  rw [Document.read_spelled (j.isSpelledBy_render layout count),
    Draft.within_eq_ofJson j (by simpa using shallow)]

end LayeredScene
