/-! # Maps in the order of their keys

A map from names to values whose entries are kept in the order of the names, by code points.  The
order is part of the type, so two maps with the same entries are the same map. -/

namespace LayeredScene

/-- Puts an entry into its place; an entry of the same name gives way. -/
def insertEntry {α : Type} (key : String) (value : α) : List (String × α) → List (String × α)
  | [] => [(key, value)]
  | (k, v) :: rest =>
    if key < k then (key, value) :: (k, v) :: rest
    else if key = k then (key, value) :: rest
    else (k, v) :: insertEntry key value rest

theorem mem_keys_insertEntry {α : Type} {key : String} {value : α} {entries : List (String × α)}
    {e : String × α} (h : e ∈ insertEntry key value entries) : e.1 = key ∨ e ∈ entries := by
  induction entries with
  | nil =>
    simp only [insertEntry, List.mem_singleton] at h
    exact Or.inl (by rw [h])
  | cons entry rest ih =>
    obtain ⟨k, v⟩ := entry
    simp only [insertEntry] at h
    split at h
    · rcases List.mem_cons.1 h with rfl | h
      · exact Or.inl rfl
      · exact Or.inr h
    · split at h
      · rcases List.mem_cons.1 h with rfl | h
        · exact Or.inl rfl
        · exact Or.inr (List.mem_cons_of_mem _ h)
      · rcases List.mem_cons.1 h with rfl | h
        · exact Or.inr List.mem_cons_self
        · exact (ih h).imp_right (List.mem_cons_of_mem _)

theorem pairwise_insertEntry {α : Type} (key : String) (value : α)
    {entries : List (String × α)} (sorted : entries.Pairwise (·.1 < ·.1)) :
    (insertEntry key value entries).Pairwise (·.1 < ·.1) := by
  induction entries with
  | nil => simp [insertEntry]
  | cons entry rest ih =>
    obtain ⟨k, v⟩ := entry
    obtain ⟨first, others⟩ := List.pairwise_cons.1 sorted
    simp only [insertEntry]
    split
    · next before =>
      refine List.pairwise_cons.2 ⟨fun e he => ?_, sorted⟩
      rcases List.mem_cons.1 he with rfl | he
      · exact before
      · exact String.lt_trans before (first e he)
    · next notBefore =>
      split
      · next same =>
        subst same
        exact List.pairwise_cons.2 ⟨first, others⟩
      · next different =>
        refine List.pairwise_cons.2 ⟨fun e he => ?_, ih others⟩
        rcases mem_keys_insertEntry he with h | he
        · rw [h]
          exact Std.lt_of_le_of_ne notBefore (Ne.symm different)
        · exact first e he

theorem lookup_entry {α : Type} (key : String) (value : α) (rest : List (String × α))
    (other : String) :
    ((key, value) :: rest).lookup other =
      if other = key then some value else rest.lookup other := by
  rw [List.lookup_cons]
  split
  · next same => rw [if_pos (beq_iff_eq.mp same)]
  · next different => rw [if_neg (beq_eq_false_iff_ne.mp different)]

theorem lookup_insertEntry {α : Type} (key : String) (value : α) (entries : List (String × α))
    (other : String) :
    (insertEntry key value entries).lookup other =
      if other = key then some value else entries.lookup other := by
  induction entries with
  | nil => rw [insertEntry, lookup_entry]
  | cons entry rest ih =>
    obtain ⟨k, v⟩ := entry
    simp only [insertEntry]
    split
    · rw [lookup_entry]
    · split
      · next same =>
        rw [lookup_entry, lookup_entry, same]
        split <;> rfl
      · next different =>
        rw [lookup_entry, lookup_entry, ih]
        -- The entry in front keeps its name, which is another one.
        split
        · next front => rw [if_neg (front ▸ Ne.symm different)]
        · rfl

theorem insertEntry_of_last {α : Type} {key : String} {value : α} {entries : List (String × α)}
    (last : ∀ e ∈ entries, e.1 < key) :
    insertEntry key value entries = entries ++ [(key, value)] := by
  induction entries with
  | nil => rfl
  | cons entry rest ih =>
    obtain ⟨k, v⟩ := entry
    have before : k < key := last _ List.mem_cons_self
    have different : key ≠ k := fun same => String.lt_irrefl k (same ▸ before)
    rw [insertEntry, if_neg (String.lt_asymm before), if_neg different,
      ih fun e he => last e (List.mem_cons_of_mem _ he), List.cons_append]

/-- A map from names to values, in the order of the names. -/
structure SortedMap (α : Type) where
  entries : List (String × α)
  sorted : entries.Pairwise (·.1 < ·.1)
deriving DecidableEq

namespace SortedMap

variable {α : Type}

def empty : SortedMap α := ⟨[], .nil⟩

instance : Inhabited (SortedMap α) := ⟨empty⟩

theorem eq_of_entries {m m' : SortedMap α} (same : m.entries = m'.entries) : m = m' := by
  cases m
  cases m'
  cases same
  rfl

def insert (m : SortedMap α) (key : String) (value : α) : SortedMap α :=
  ⟨insertEntry key value m.entries, pairwise_insertEntry key value m.sorted⟩

def get? (m : SortedMap α) (key : String) : Option α :=
  m.entries.lookup key

theorem get?_insert (m : SortedMap α) (key : String) (value : α) (other : String) :
    (m.insert key value).get? other = if other = key then some value else m.get? other :=
  lookup_insertEntry key value m.entries other

/-- The map of some entries; of several with the same name the last one counts. -/
def ofList (entries : List (String × α)) : SortedMap α :=
  entries.foldl (fun m e => m.insert e.1 e.2) empty

theorem entries_foldl_insert {entries : List (String × α)} {m : SortedMap α}
    (sorted : (m.entries ++ entries).Pairwise (·.1 < ·.1)) :
    (entries.foldl (fun m e => m.insert e.1 e.2) m).entries = m.entries ++ entries := by
  induction entries generalizing m with
  | nil => simp
  | cons e rest ih =>
    have last : ∀ e' ∈ m.entries, e'.1 < e.1 := fun e' he =>
      (List.pairwise_append.mp sorted).2.2 e' he e List.mem_cons_self
    have inserted : (m.insert e.1 e.2).entries = m.entries ++ [e] := insertEntry_of_last last
    rw [List.foldl_cons, ih (by rwa [inserted, List.append_assoc]), inserted, List.append_assoc,
      List.singleton_append]

/-- A map is made of its own entries. -/
theorem ofList_entries (m : SortedMap α) : ofList m.entries = m :=
  eq_of_entries (entries_foldl_insert m.sorted)

def isEmpty (m : SortedMap α) : Bool :=
  m.entries.isEmpty

end SortedMap

end LayeredScene
