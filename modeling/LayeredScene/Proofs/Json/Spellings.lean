import LayeredScene.Proofs.Json.Reader

/-! # Every spelling of a value is read

The reader gives the same tree for all texts that spell a value: `Document.read_spelled`.  The
induction is on the value (`Scan.stands_spelled`), with `Scan.Listing` and `Scan.Naming` as the
invariants inside a list and inside an object.  Nothing is asked of the nesting: a list or an object
that is too deep is wrapped in the tree (`Draft.within`), and then it can still be passed over.
-/

namespace LayeredScene

namespace Draft

mutual

/-- The tree of a value that stands inside so many lists and objects. -/
def within (depth : Nat) : Json → Draft
  | .list items => Scan.enclose depth (.list (itemsWithin (depth + 1) items) .closed)
  | .object members => Scan.enclose depth (.object (membersWithin (depth + 1) members) .closed)
  | .null => .null
  | .bool b => .bool b
  | .number n => .number n
  | .text s => .text s

def itemsWithin (depth : Nat) : List Json → List Draft
  | [] => []
  | x :: xs => within depth x :: itemsWithin depth xs

def membersWithin (depth : Nat) : List (String × Json) → List (Option String × Draft)
  | [] => []
  | (name, x) :: ms => (some name, within depth x) :: membersWithin depth ms

end

theorem membersWithin_eq_map (depth : Nat) (members : List (String × Json)) :
    membersWithin depth members = members.map fun m => (some m.1, within depth m.2) := by
  induction members with
  | nil => rfl
  | cons m ms ih => rw [membersWithin, ih, List.map_cons]

theorem skip_enclose {depth : Nat} {d : Draft} (h : d.skip = .ok ()) :
    (Scan.enclose depth d).skip = .ok () := by
  unfold Scan.enclose
  split
  · exact h
  · rwa [skip]

mutual

/-- There is no fault in the tree of a value. -/
theorem skip_within (depth : Nat) (j : Json) : (within depth j).skip = .ok () := by
  cases j with
  | null | bool | number | text => simp [within, skip]
  | list items =>
    rw [within]
    apply skip_enclose
    rw [skip, skipItems_within]
    rfl
  | object members =>
    rw [within]
    apply skip_enclose
    rw [skip, skipMembers_within]
    rfl

theorem skipItems_within (depth : Nat) (items : List Json) :
    skipItems (itemsWithin depth items) = .ok () := by
  cases items with
  | nil => simp [itemsWithin, skipItems]
  | cons x xs => simp [itemsWithin, skipItems, skip_within depth x, skipItems_within depth xs]

theorem skipMembers_within (depth : Nat) (members : List (String × Json)) :
    skipMembers (membersWithin depth members) = .ok () := by
  cases members with
  | nil => simp [membersWithin, skipMembers]
  | cons m ms =>
    simp [membersWithin, skipMembers, skip_within depth m.2, skipMembers_within depth ms]

end

end Draft

namespace Scan

mutual

/-- Behind any spelling of a value the machine stands behind the value. -/
theorem stands_spelled (j : Json) {cs : List Char} (spelled : j.Spells cs) (frames : List Frame) :
    Stands frames (.within frames.length j) (cs.foldl step ⟨frames, .value⟩) := by
  cases j with
  | null =>
    rw [Json.Spells] at spelled
    rw [spelled, foldl_null]
    exact stands_after frames .null
  | bool b =>
    rw [Json.Spells] at spelled
    rw [spelled, foldl_bool]
    exact stands_after frames (.bool b)
  | number n =>
    rw [Json.Spells] at spelled
    exact stands_numeral frames spelled
  | text s =>
    rw [Json.Spells] at spelled
    rw [foldl_text spelled]
    exact stands_after frames (.text s)
  | list items =>
    rw [Json.Spells] at spelled
    obtain ⟨inside, laid, rfl⟩ := spelled
    have opened : step ⟨frames, .value⟩ '[' = ⟨.inList [] :: frames, .value⟩ := by
      rw [step_value, want_eq_opening rfl (by decide)]
      rfl
    have listing : Listing frames ([] ++ _) _ := listing_laid items laid frames [] fun _ => rfl
    rw [List.foldl_cons, opened, List.foldl_append, List.foldl_cons, Draft.within]
    exact listing.close ▸ stands_after ..
  | object members =>
    rw [Json.Spells] at spelled
    obtain ⟨inside, laid, rfl⟩ := spelled
    have opened : step ⟨frames, .value⟩ '{' = ⟨frames, .key []⟩ := by
      rw [step_value, want_eq_opening rfl (by decide)]
      rfl
    have naming : Naming frames ([] ++ _) _ := naming_laid members laid frames [] fun _ => rfl
    rw [List.foldl_cons, opened, List.foldl_append, List.foldl_cons, Draft.within]
    exact naming.close ▸ stands_after ..

theorem listing_laid (items : List Json) {cs : List Char}
    (laid : Laid (Json.itemSpellings items) cs) (frames : List Frame) (done : List Draft)
    (first : items = [] → done = []) :
    Listing frames (done ++ Draft.itemsWithin (frames.length + 1) items)
      (cs.foldl step ⟨.inList done.reverse :: frames, .value⟩) := by
  cases items with
  | nil =>
    rw [Json.itemSpellings, Laid] at laid
    rw [first rfl, foldl_gap_value laid]
    exact .opened
  | cons x xs =>
    have item {cs : List Char} (padded : Padded x.Spells cs) :
        Listing frames (done ++ [.within (frames.length + 1) x])
          (cs.foldl step ⟨.inList done.reverse :: frames, .value⟩) := by
      have listing := listing_padded
        (fun _ spelled => stands_spelled x spelled (.inList done.reverse :: frames)) padded
      rwa [List.reverse_reverse] at listing
    rw [Json.itemSpellings] at laid
    cases xs with
    | nil => exact item laid
    | cons y ys =>
      obtain ⟨front, rest, padded, laid, rfl⟩ := laid
      have next := (item padded).comma (by simp)
      have more := listing_laid (y :: ys) laid frames
        (done ++ [.within (frames.length + 1) x]) nofun
      rw [← next, List.append_assoc] at more
      rw [List.foldl_append, List.foldl_cons]
      exact more

theorem naming_laid (members : List (String × Json)) {cs : List Char}
    (laid : Laid (Json.memberSpellings members) cs) (frames : List Frame)
    (done : List (Option String × Draft)) (first : members = [] → done = []) :
    Naming frames (done ++ Draft.membersWithin (frames.length + 1) members)
      (cs.foldl step ⟨frames, .key done.reverse⟩) := by
  cases members with
  | nil =>
    rw [Json.memberSpellings, Laid] at laid
    rw [first rfl, foldl_gap_key laid]
    exact .opened
  | cons m ms =>
    obtain ⟨name, x⟩ := m
    have member {cs : List Char} (padded : Padded (SpellsMember name x.Spells) cs) :
        Naming frames (done ++ [(some name, .within (frames.length + 1) x)])
          (cs.foldl step ⟨frames, .key done.reverse⟩) := by
      have naming := naming_padded
        (fun _ spelled => stands_spelled x spelled (.inObject done.reverse (some name) :: frames))
        padded
      rwa [List.reverse_reverse] at naming
    rw [Json.memberSpellings] at laid
    cases ms with
    | nil => exact member laid
    | cons n ns =>
      obtain ⟨front, rest, padded, laid, rfl⟩ := laid
      have next := (member padded).comma (by simp)
      have more := naming_laid (n :: ns) laid frames
        (done ++ [(some name, .within (frames.length + 1) x)]) nofun
      rw [← next, List.append_assoc] at more
      rw [List.foldl_append, List.foldl_cons]
      exact more

end

end Scan

/-- Whatever the spelling of a value, its tree is read, and nothing is left behind it. -/
theorem Document.read_spelled {j : Json} {text : String} (spelled : j.IsSpelledBy text) :
    Document.read text = ⟨.within 0 j, false⟩ := by
  obtain ⟨gap, inside, gap', blank, spelled, blank', text⟩ := spelled
  have stands := Scan.stands_spelled j spelled []
  rw [Document.read, text, List.foldl_append, List.foldl_append, Scan.start,
    Scan.foldl_gap_value blank]
  exact (Scan.foldl_gap _ (fun _ _ h space => h.space space) blank' stands).finish

end LayeredScene
