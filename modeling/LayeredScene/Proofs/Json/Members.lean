import LayeredScene.Json.Record
import LayeredScene.Proofs.Traversal

/-! # Records from members in any order

The members of an object may come in any order, with unknown ones among them.  `Record.Takes` is
what a record makes of them.  The first field looks at the members with its key only and leaves the
rest to the other fields, whatever the order (`readMembers_cons`), so that a record can be read
field by field: `Takes.of_filter`.  Members with unknown names are passed over (`Takes.filter`),
and so the members with the key of one field may also be left to the others (`Takes.cons`).
-/

namespace LayeredScene

variable {α β : Type}

/-- All names are texts, and no value has a fault. -/
def Faultless (members : List (Option String × Draft)) : Prop :=
  ∀ m ∈ members, m.1 ≠ none ∧ m.2.skip = .ok ()

/-- The members with the key of a field. -/
def Field.members (f : Field α) (members : List (Option String × Draft)) :
    List (Option String × Draft) :=
  members.filter (·.1 == some f.key)

/-- What a field has from members: there is only one with its key, or there is none and the field
has its value for this case. -/
def Field.Finds (f : Field α) (members : List (Option String × Draft)) (a : α) : Prop :=
  (f.members members = [] ∧ f.absent = some a) ∨
    ∃ d, f.members members = [(some f.key, d)] ∧ f.read d = .ok a

namespace Record

/-- What the record makes of the members of an object. -/
def Takes (r : Record α) (members : List (Option String × Draft)) (a : α) : Prop :=
  ∃ s, r.readMembers members r.blank = .ok s ∧ r.finish s = .ok a

variable {f : Field α} {r : Record β} {members : List (Option String × Draft)}

theorem Takes.read_codec {γ : Type} {b : β} (takes : r.Takes members b) (make : β → γ)
    (unmake : γ → β) : (r.codec make unmake).read (.object members .closed) = .ok (make b) := by
  obtain ⟨s, read, finished⟩ := takes
  show make <$> r.read (.object members .closed) = .ok (make b)
  rw [Record.read, read]
  show make <$> r.finish s = .ok (make b)
  rw [finished]
  rfl

/-! ## One member after the other -/

theorem readMembers_some (r : Record β) (key : String) (d : Draft)
    (members : List (Option String × Draft)) (s : r.Slots) :
    r.readMembers ((some key, d) :: members) s =
      match r.keys.idxOf? key with
      | some k => r.put k d s >>= r.readMembers members
      | none => d.skip >>= fun _ => r.readMembers members s := by
  rw [readMembers]
  cases r.keys.idxOf? key with
  | none => cases d.skip <;> rfl
  | some k => dsimp only; cases r.put k d s <;> rfl

theorem readMembers_singleton_append (m : Option String × Draft) (s : r.Slots) :
    r.readMembers (m :: members) s = r.readMembers [m] s >>= r.readMembers members := by
  obtain ⟨key?, d⟩ := m
  cases key? with
  | none => rfl
  | some key =>
    rw [readMembers_some, readMembers_some]
    cases r.keys.idxOf? key with
    | none => cases d.skip <;> rfl
    | some k =>
      show r.put k d s >>= _ = (r.put k d s >>= r.readMembers []) >>= _
      cases r.put k d s <;> rfl

/-- A value goes into the slot of the first field. -/
theorem readMembers_cons_self (d : Draft) (slot : Option α) (s : r.Slots) :
    (cons f r).readMembers ((some f.key, d) :: members) (slot, s) =
      putField f d slot >>= fun slot => (cons f r).readMembers members (slot, s) := by
  have first : (cons f r).keys.idxOf? f.key = some 0 := by simp [cons, List.idxOf?_cons]
  have put : (cons f r).put 0 d (slot, s) = (fun slot => (slot, s)) <$> putField f d slot := rfl
  refine (readMembers_some (cons f r) f.key d members (slot, s)).trans ?_
  rw [first]
  show (cons f r).put 0 d (slot, s) >>= _ = _
  rw [put]
  cases putField f d slot <;> rfl

/-- A value with another key is for the other fields. -/
theorem readMembers_cons_other {key : String} (other : key ≠ f.key) (d : Draft) (slot : Option α)
    (s : r.Slots) :
    (cons f r).readMembers ((some key, d) :: members) (slot, s) =
      r.readMembers [(some key, d)] s >>= fun s => (cons f r).readMembers members (slot, s) := by
  have index : (cons f r).keys.idxOf? key = (r.keys.idxOf? key).map (· + 1) := by
    rw [cons, List.idxOf?_cons, beq_eq_false_iff_ne.mpr (Ne.symm other)]
    rfl
  refine (readMembers_some (cons f r) key d members (slot, s)).trans ?_
  rw [readMembers_some r, index]
  cases r.keys.idxOf? key with
  | none => cases d.skip <;> rfl
  | some k =>
    show ((fun s => (slot, s)) <$> r.put k d s) >>= (cons f r).readMembers members =
      (r.put k d s >>= r.readMembers []) >>= _
    cases r.put k d s <;> rfl

/-! ## All members -/

/-- The first field fills its slot from the members with its key, and the others fill theirs from
    the rest. -/
theorem readMembers_cons {slot slot' : Option α}
    (filled : (f.members members).foldlM (fun slot m => putField f m.2 slot) slot = .ok slot')
    {s s' : r.Slots} (rest : r.readMembers (members.filter (·.1 != some f.key)) s = .ok s') :
    (cons f r).readMembers members (slot, s) = .ok (slot', s') := by
  induction members generalizing slot s with
  | nil =>
    cases filled
    cases rest
    rfl
  | cons m ms ih =>
    obtain ⟨key?, d⟩ := m
    by_cases same : key? = some f.key
    · subst same
      rw [Field.members, List.filter_cons_of_pos (by simp), List.foldlM_cons] at filled
      obtain ⟨slot₁, put, filled⟩ := bind_eq_ok filled
      rw [List.filter_cons_of_neg (by simp)] at rest
      refine (readMembers_cons_self d slot s).trans ?_
      rw [put]
      exact ih filled rest
    · rw [Field.members, List.filter_cons_of_neg (by simpa using same)] at filled
      rw [List.filter_cons_of_pos (by simpa using same), readMembers_singleton_append] at rest
      obtain ⟨s₁, step, later⟩ := bind_eq_ok rest
      cases key? with
      | none => cases step
      | some key =>
        refine (readMembers_cons_other (fun h => same (congrArg some h)) d slot s).trans ?_
        rw [step]
        exact ih filled later

/-- Unknown members are passed over. -/
theorem readMembers_filter {key : String} (unknown : key ∉ r.keys) (faultless : Faultless members)
    (s : r.Slots) :
    r.readMembers (members.filter (·.1 != some key)) s = r.readMembers members s := by
  induction members generalizing s with
  | nil => rfl
  | cons m ms ih =>
    obtain ⟨⟨-, skipped⟩, later⟩ := List.forall_mem_cons.mp faultless
    obtain ⟨key?, d⟩ := m
    by_cases same : key? = some key
    · subst same
      have index : r.keys.idxOf? key = none := by simpa using unknown
      rw [List.filter_cons_of_neg (by simp), ih later, readMembers_some, index, skipped]
      rfl
    · have known : r.readMembers ((key?, d) :: ms) s =
          r.readMembers [(key?, d)] s >>= r.readMembers ms := readMembers_singleton_append _ s
      rw [List.filter_cons_of_pos (by simpa using same), readMembers_singleton_append, known]
      exact congrArg _ (funext (ih later))

theorem takes_unit (faultless : Faultless members) : unit.Takes members () := by
  refine ⟨(), ?_, rfl⟩
  induction members with
  | nil => rfl
  | cons m ms ih =>
    obtain ⟨⟨named, skipped⟩, rest⟩ := List.forall_mem_cons.mp faultless
    obtain ⟨key?, d⟩ := m
    obtain ⟨key, rfl⟩ := Option.ne_none_iff_exists'.mp named
    have passed := readMembers_some unit key d ms unit.blank
    rw [show unit.keys.idxOf? key = none from rfl, skipped] at passed
    exact passed.trans (ih rest)

theorem Takes.filter {key : String} {b : β} (takes : r.Takes members b) (unknown : key ∉ r.keys)
    (faultless : Faultless members) : r.Takes (members.filter (·.1 != some key)) b := by
  obtain ⟨s, read, finished⟩ := takes
  exact ⟨s, by rw [readMembers_filter unknown faultless, read], finished⟩

/-- One more field takes the members with its key. -/
theorem Takes.of_filter {a : α} {b : β} (field : f.Finds members a)
    (others : r.Takes (members.filter (·.1 != some f.key)) b) :
    (Record.cons f r).Takes members (a, b) := by
  obtain ⟨s, read, finished⟩ := others
  obtain ⟨slot, filled, taken⟩ : ∃ slot,
      (f.members members).foldlM (fun slot m => putField f m.2 slot) none = .ok slot ∧
        finishField f slot = .ok a := by
    obtain ⟨none, absent⟩ | ⟨d, only, found⟩ := field
    · exact ⟨.none, by rw [none]; rfl, by rw [finishField, absent]⟩
    · refine ⟨some a, ?_, rfl⟩
      rw [only, List.foldlM_cons, putField, found]
      rfl
  refine ⟨(slot, s), readMembers_cons filled read, ?_⟩
  show (do return (← finishField f slot, ← r.finish s) : Except Fault (α × β)) = .ok (a, b)
  rw [taken, finished]
  rfl

/-- For the other fields the members with the new key are unknown ones. -/
theorem Takes.cons {a : α} {b : β} (fresh : f.key ∉ r.keys) (faultless : Faultless members)
    (field : f.Finds members a) (others : r.Takes members b) :
    (Record.cons f r).Takes members (a, b) :=
  .of_filter field (others.filter fresh faultless)

end Record

end LayeredScene
