import LayeredScene.Proofs.Json.Members
import LayeredScene.Proofs.Json.Trees

/-! # Codecs keep values

A codec keeps a value if what it writes for the value is read as that value again.  Each way of
making a codec from others has one lemma here that says which values it keeps, so that the lemma for
a type is put together in the same way as its codec.  The lemmas also bound how deeply the written
value is nested, since a text that is nested too deeply is not read at all.

For records the induction is on the fields: what is written for a field is found again among the
members of the others, as long as none of them has its key (`Field.Keeps.finds`).
-/

namespace LayeredScene

variable {α β : Type}

/-! ## Printed numbers -/

/-- The printed number is read as the same single. -/
def PrintsSingle (x : Float32) : Prop :=
  Codec.single.ofText (Codec.single.write x).compact = .ok x

/-- The printed number is read as the same double. -/
def PrintsDouble (x : Float) : Prop :=
  Codec.double.ofText (Codec.double.write x).compact = .ok x

instance : DecidablePred PrintsSingle := fun _ => inferInstanceAs (Decidable (_ = _))

instance : DecidablePred PrintsDouble := fun _ => inferInstanceAs (Decidable (_ = _))

/-! ## Codecs -/

namespace Codec

/-- What is written for a value is read as that value, and is nested no deeper than this. -/
structure Keeps (c : Codec α) (depth : Nat) (a : α) : Prop where
  read : c.read (.ofJson (c.write a)) = .ok a
  nesting : (c.write a).nesting ≤ depth

variable {c : Codec α} {depth : Nat}

/-- A value that is kept can be read from its text, in either layout. -/
theorem Keeps.ofText_render {a : α} (kept : c.Keeps depth a) (shallow : depth < depthLimit)
    (layout : Json.Layout) : c.ofText ((c.write a).render layout) = .ok a := by
  have document := Document.read_render layout (c.write a)
    (Nat.lt_of_le_of_lt kept.nesting shallow) 0
  rw [List.replicate_zero, String.ofList_nil, String.append_empty] at document
  rw [ofText, document]
  simp only [kept.read, Bool.false_eq_true, if_false]

theorem read_of_ofText_render {a b : α} (shallow : (c.write a).nesting < depthLimit)
    {layout : Json.Layout} (h : c.ofText ((c.write a).render layout) = .ok b) :
    c.read (.ofJson (c.write a)) = .ok b := by
  have document := Document.read_render layout (c.write a) shallow 0
  rw [List.replicate_zero, String.ofList_nil, String.append_empty] at document
  rw [ofText, document] at h
  cases read : c.read (.ofJson (c.write a)) with
  | error fault => simp [read] at h
  | ok a' => simpa [read] using h

theorem keeps_text (s : String) : text.Keeps 0 s := ⟨rfl, Nat.le_refl 0⟩

theorem keeps_bool (b : Bool) : bool.Keeps 0 b := ⟨rfl, Nat.le_refl 0⟩

theorem keeps_below {bound n : Nat} (small : n < bound) (fits : bound ≤ UInt64.size) :
    (below bound).Keeps 0 n where
  read := by
    have value : (Numeral.ofNat n).toNat? = some n := by
      simp [Numeral.toNat?, Numeral.ofNat, Numeral.isWhole, Nat.lt_of_lt_of_le small fits]
    simp [below, Json.nat, Draft.ofJson, value, small]
  nesting := Nat.le_refl 0

theorem keeps_count {n : Nat} (small : n < UInt64.size) : count.Keeps 0 n :=
  keeps_below small (Nat.le_refl _)

theorem Keeps.via {make : α → β} {unmake : β → α} {b : β} (kept : c.Keeps depth (unmake b))
    (same : make (unmake b) = b) : (c.via make unmake).Keeps depth b where
  read := by
    show make <$> c.read (.ofJson (c.write (unmake b))) = .ok b
    rw [kept.read]
    exact congrArg Except.ok same
  nesting := kept.nesting

theorem keeps_word32 (n : UInt32) : word32.Keeps 0 n :=
  (keeps_below n.toNat_lt (by decide)).via (UInt32.ofNat_toNat ..)

theorem keeps_word64 (n : UInt64) : word64.Keeps 0 n :=
  (keeps_below n.toNat_lt (Nat.le_refl _)).via (UInt64.ofNat_toNat ..)

theorem keeps_single {x : Float32} (h : PrintsSingle x) : single.Keeps 0 x where
  read := read_of_ofText_render (by simp [single, depthLimit]) h
  nesting := by simp [single]

theorem keeps_double {x : Float} (h : PrintsDouble x) : double.Keeps 0 x where
  read := read_of_ofText_render (by simp [double, depthLimit]) h
  nesting := by simp [double]

theorem keeps_choice {names : List (String × α)} {name : α → String} {a : α}
    (h : names.lookup (name a) = some a) : (choice names name).Keeps 0 a where
  read := by
    show named names (name a) = .ok a
    rw [named, h]
  nesting := Nat.le_refl 0

/-! ### Lists and triples -/

theorem readItems_map {items : List α} (kept : ∀ a ∈ items, c.Keeps depth a) (done : List α) :
    c.readItems (items.map fun a => .ofJson (c.write a)) done = .ok (done.reverse ++ items) := by
  induction items generalizing done with
  | nil => simp [readItems]
  | cons a items ih =>
    have rest := ih (fun b hb => kept b (List.mem_cons_of_mem _ hb)) (a :: done)
    simpa [readItems, (kept a List.mem_cons_self).read] using rest

theorem nesting_list_le {items : List α} (kept : ∀ a ∈ items, c.Keeps depth a) :
    (Json.list (items.map c.write)).nesting ≤ depth + 1 := by
  rw [Json.nesting]
  refine Nat.succ_le_succ (Json.nestingItems_le fun j hj => ?_)
  obtain ⟨a, ha, rfl⟩ := List.mem_map.mp hj
  exact (kept a ha).nesting

theorem Keeps.list {items : List α} (kept : ∀ a ∈ items, c.Keeps depth a) :
    c.list.Keeps (depth + 1) items where
  read := by
    have read := readItems_map kept []
    simp only [Codec.list, Draft.ofJson, Draft.ofItems_eq_map, List.map_map]
    rw [show (Draft.ofJson ∘ c.write) = fun a => Draft.ofJson (c.write a) from rfl, read]
    rfl
  nesting := nesting_list_le kept

theorem Keeps.triple {t : Triple α} (kept : ∀ a ∈ t.toList, c.Keeps depth a) :
    c.triple.Keeps (depth + 1) t where
  read := by
    have read := readItems_map kept []
    simp only [Codec.triple, Draft.ofJson, Draft.ofItems_eq_map, List.map_map]
    rw [show (Draft.ofJson ∘ c.write) = fun a => Draft.ofJson (c.write a) from rfl,
      List.take_of_length_le (by simp [Triple.toList]), read]
    rfl
  nesting := nesting_list_le kept

theorem keeps_triple {t : Triple Float} (printed : ∀ x ∈ t.toList, PrintsDouble x) :
    double.triple.Keeps 1 t :=
  .triple fun x hx => keeps_double (printed x hx)

/-! ### Maps -/

section

variable {insert : β → String → α → β}

/-- The members are put in one after the other, in the order in which they are written. -/
theorem readMembers_map {entries : List (String × α)} (kept : ∀ e ∈ entries, c.Keeps depth e.2)
    (done : β) :
    c.readMembers insert (Draft.ofMembers (entries.map fun e => (e.1, c.write e.2))) done =
      .ok (entries.foldl (fun b e => insert b e.1 e.2) done) := by
  induction entries generalizing done with
  | nil => rfl
  | cons e entries ih =>
    have rest := ih (fun e he => kept e (List.mem_cons_of_mem _ he)) (insert done e.1 e.2)
    simpa [readMembers, Draft.ofMembers, (kept e List.mem_cons_self).read] using rest

/-- A map is kept if putting in its entries one after the other makes it again. -/
theorem Keeps.members {empty : β} {entries : β → List (String × α)} {b : β}
    (kept : ∀ e ∈ entries b, c.Keeps depth e.2)
    (rebuilt : (entries b).foldl (fun b e => insert b e.1 e.2) empty = b) :
    (c.members empty insert entries).Keeps (depth + 1) b where
  read := by
    simp only [Codec.members, Draft.ofJson, readMembers_map kept, rebuilt]
    rfl
  nesting := by
    refine Nat.succ_le_succ (Json.nestingMembers_le fun m hm => ?_)
    obtain ⟨e, he, rfl⟩ := List.mem_map.mp hm
    exact (kept e he).nesting

theorem Keeps.sortedMap {m : SortedMap α} (kept : ∀ e ∈ m.entries, c.Keeps depth e.2) :
    c.sortedMap.Keeps (depth + 1) m :=
  .members kept m.ofList_entries

end

end Codec

/-! ## Fields -/

namespace Field

/-- A value is read back from what is written for it, or nothing is written for the value that a
    missing field has. -/
def Keeps (f : Field α) (depth : Nat) (a : α) : Prop :=
  match f.write a with
  | some j => f.read (.ofJson j) = .ok a ∧ j.nesting ≤ depth
  | none => f.absent = some a

variable {c : Codec α} {depth : Nat}

theorem keeps_required (key : String) {a : α} (kept : c.Keeps depth a) :
    (required key c).Keeps depth a :=
  ⟨kept.read, kept.nesting⟩

theorem keeps_defaulted (key : String) (absent : α) {a : α} (kept : c.Keeps depth a) :
    (defaulted key c absent).Keeps depth a :=
  ⟨kept.read, kept.nesting⟩

/-- An optional field is kept if its value is not written as the value of a missing one. -/
theorem keeps_optional (key : String) {a : Option α} (notNull : ∀ b, c.read .null ≠ .ok b)
    (kept : ∀ b ∈ a, c.Keeps depth b) : (optional key c).Keeps depth a := by
  cases a with
  | none => exact rfl
  | some a =>
    obtain ⟨read, nesting⟩ := kept a rfl
    refine ⟨?_, nesting⟩
    show c.option.read (.ofJson (c.write a)) = .ok (some a)
    cases draft : Draft.ofJson (c.write a) with
    | null => exact absurd (draft ▸ read) (notNull a)
    | _ =>
      rw [draft] at read
      simp only [Codec.option, read]
      rfl

/-- What is written for a field is found again among members with other keys. -/
theorem Keeps.finds {f : Field α} {a : α} (kept : f.Keeps depth a)
    {members : List (Option String × Draft)} (other : ∀ m ∈ members, m.1 ≠ some f.key) :
    f.Finds (Draft.ofMembers ((f.write a).toList.map (f.key, ·)) ++ members) a := by
  have none : members.filter (·.1 == some f.key) = [] :=
    List.filter_eq_nil_iff.mpr fun m hm => by simpa using other m hm
  rw [Keeps] at kept
  rw [Finds, Field.members, List.filter_append, none, List.append_nil]
  cases written : f.write a with
  | none =>
    rw [written] at kept
    exact .inl ⟨rfl, kept⟩
  | some j =>
    rw [written] at kept
    exact .inr ⟨.ofJson j, by simp [Draft.ofMembers], kept.1⟩

/-- A map without entries is not written, and is what a missing one is read as. -/
theorem keeps_entries (key : String) {m : SortedMap α} (kept : ∀ e ∈ m.entries, c.Keeps depth e.2) :
    (entries key c).Keeps (depth + 1) m := by
  by_cases empty : m.isEmpty
  · have left : (entries key c).write m = none := if_pos empty
    rw [Keeps, left]
    exact congrArg some (SortedMap.eq_of_entries (List.isEmpty_iff.mp empty).symm)
  · have written : (entries key c).write m = some (c.sortedMap.write m) := if_neg empty
    have kept := Codec.Keeps.sortedMap kept
    rw [Keeps, written]
    exact ⟨kept.read, kept.nesting⟩

end Field

/-! ## Records -/

namespace Record

/-- The members that are written for a value fill the slots with it, as long as no two fields have
    the same key; they have keys of the record and are nested no deeper than this. -/
structure Keeps (r : Record α) (depth : Nat) (a : α) : Prop where
  read : r.keys.Nodup →
    ∃ s, r.readMembers (Draft.ofMembers (r.write a)) r.blank = .ok s ∧ r.finish s = .ok a
  keys : ∀ m ∈ r.write a, m.1 ∈ r.keys
  nesting : ∀ m ∈ r.write a, m.2.nesting ≤ depth

variable {f : Field α} {r : Record β} {depth depth' : Nat}

/-- Without what is written for a field, the members of the others are left. -/
theorem filter_written {a : α} {members : List (Option String × Draft)}
    (other : ∀ m ∈ members, m.1 ≠ some f.key) :
    (Draft.ofMembers ((f.write a).toList.map (f.key, ·)) ++ members).filter (·.1 != some f.key) =
      members := by
  have own : (Draft.ofMembers ((f.write a).toList.map (f.key, ·))).filter (·.1 != some f.key) =
      [] := by
    simp [Draft.ofMembers_eq_map]
  have kept : members.filter (·.1 != some f.key) = members :=
    List.filter_eq_self.mpr fun m hm => bne_iff_ne.mpr (other m hm)
  rw [List.filter_append, own, kept, List.nil_append]

theorem keeps_unit : unit.Keeps 0 () where
  read _ := ⟨(), rfl, rfl⟩
  keys _ h := by cases h
  nesting _ h := by cases h

/-- A record with one more field keeps that field's values with the others. -/
theorem Keeps.cons {a : α} {b : β} (field : f.Keeps depth a) (others : r.Keeps depth' b) :
    (Record.cons f r).Keeps (max depth depth') (a, b) where
  read distinct := by
    obtain ⟨fresh, distinct⟩ := List.nodup_cons.mp distinct
    have other : ∀ m ∈ Draft.ofMembers (r.write b), m.1 ≠ some f.key := by
      intro m hm same
      rw [Draft.ofMembers_eq_map] at hm
      obtain ⟨written, hw, rfl⟩ := List.mem_map.mp hm
      exact fresh (Option.some.inj same ▸ others.keys written hw)
    show (Record.cons f r).Takes
      (Draft.ofMembers ((f.write a).toList.map (f.key, ·) ++ r.write b)) (a, b)
    rw [Draft.ofMembers_append]
    refine .of_filter (field.finds other) ?_
    rw [filter_written other]
    exact others.read distinct
  keys m hm := by
    rcases List.mem_append.mp hm with first | rest
    · obtain ⟨j, -, rfl⟩ := List.mem_map.mp first
      exact List.mem_cons_self
    · exact List.mem_cons_of_mem _ (others.keys m rest)
  nesting m hm := by
    rcases List.mem_append.mp hm with first | rest
    · obtain ⟨j, hj, rfl⟩ := List.mem_map.mp first
      rw [Field.Keeps, Option.mem_toList.mp hj] at field
      exact Nat.le_trans field.2 (Nat.le_max_left ..)
    · exact Nat.le_trans (others.nesting m rest) (Nat.le_max_right ..)

/-- A codec of records keeps a value if the record keeps the tuple of its fields and has no key
    twice. -/
theorem Keeps.codec {r : Record α} {make : α → β} {unmake : β → α} {b : β}
    (distinct : r.keys.Nodup) (same : make (unmake b) = b) (kept : r.Keeps depth (unmake b)) :
    (r.codec make unmake).Keeps (depth + 1) b where
  read := by
    have taken := Takes.read_codec (kept.read distinct) make unmake
    rw [same] at taken
    exact taken
  nesting := Nat.succ_le_succ (Json.nestingMembers_le kept.nesting)

end Record

end LayeredScene
