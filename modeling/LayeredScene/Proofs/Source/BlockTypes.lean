import LayeredScene.Proofs.Source.Blocks
import Mathlib.Data.List.Chain

/-! # The types of the lines of a block

The lines of a block lead with its type, except that lines with an empty type may stand before them:
a block whose type is empty takes the type of the next line that has one, whether the block has no
line with a separator yet or one that leads with nothing.  A block ends before a line of another
type, and only if its own type is not empty.

So the blocks of a source are homogeneous, and blocks that follow each other have different types,
exactly if no line leads with a type after a line that leads with an empty one.  `typed_of_take?` is
the step of the induction, in which the unfinished block is the state.
-/

namespace LayeredScene

/-- What the lines with a separator lead with, in order. -/
def leadingTypes (ls : List NumberedLine) : List String :=
  ls.filterMap (·.leadingType?)

namespace Block

/-- Every line with a separator leads with the type of the block. -/
def Homogeneous (b : Block) : Prop :=
  ∀ objectType ∈ leadingTypes b.lines, objectType = b.objectType

instance (b : Block) : Decidable b.Homogeneous :=
  inferInstanceAs (Decidable (∀ objectType ∈ leadingTypes b.lines, objectType = b.objectType))

/-- The lines with a separator lead with nothing and then with the type of the block, which is empty
    if no line leads with it. -/
def Typed (b : Block) : Prop :=
  ∃ untyped typed, leadingTypes b.lines =
    List.replicate untyped "" ++ List.replicate typed b.objectType ∧
    (typed = 0 → b.objectType = "")

/-- The next block starts with a line of another type, and the type of this one is known. -/
def EndsBefore (b next : Block) : Prop :=
  b.objectType ≠ "" ∧ ∃ first objectType, next.lines.head? = some first ∧
    first.leadingType? = some objectType ∧ objectType ≠ b.objectType

/-! ## One line -/

theorem typed_start (l : NumberedLine) : (start l).Typed := by
  cases leads : l.leadingType? with
  | none => exact ⟨0, 0, by simp [start, leadingTypes, leads], fun _ => by simp [start, leads]⟩
  | some objectType =>
    exact ⟨0, 1, by simp [start, leadingTypes, leads], fun none => absurd none Nat.one_ne_zero⟩

theorem take?_of_keyless {b : Block} {l : NumberedLine} (leads : l.leadingType? = none) :
    b.take? l = some ⟨b.objectType, b.lines ++ [l]⟩ := by
  simp [take?, leads]

theorem take?_of_keyed {b : Block} {l : NumberedLine} {objectType : String}
    (leads : l.leadingType? = some objectType) :
    b.take? l = if b.objectType = objectType ∨ b.objectType = "" then
      some ⟨objectType, b.lines ++ [l]⟩ else none := by
  simp [take?, leads]

theorem typed_of_take? {b b' : Block} {l : NumberedLine} (typed : b.Typed)
    (taken : b.take? l = some b') : b'.Typed := by
  obtain ⟨untyped, own, types, known⟩ := typed
  cases leads : l.leadingType? with
  | none =>
    obtain rfl := Option.some.inj ((take?_of_keyless leads).symm.trans taken)
    exact ⟨untyped, own, by simpa [leadingTypes, leads] using types, known⟩
  | some objectType =>
    rw [take?_of_keyed leads] at taken
    split at taken
    · next joins =>
      obtain rfl := Option.some.inj taken
      have longer : leadingTypes (b.lines ++ [l]) = leadingTypes b.lines ++ [objectType] := by
        simp [leadingTypes, leads]
      rcases joins with same | empty
      · exact ⟨untyped, own + 1, by simp [longer, types, same, List.replicate_succ'], nofun⟩
      -- All lines so far led with nothing, and this one gives the block its type.
      · exact ⟨untyped + own, 1, by simp [longer, types, empty], nofun⟩
    · cases taken

theorem endsBefore_of_not_taken {b next : Block} {l : NumberedLine} (refused : b.take? l = none)
    (first : next.lines.head? = some l) : b.EndsBefore next := by
  cases leads : l.leadingType? with
  | none => simp [take?_of_keyless leads] at refused
  | some objectType =>
    rw [take?_of_keyed leads] at refused
    split at refused
    · cases refused
    · next differs =>
      obtain ⟨other, known⟩ := not_or.1 differs
      exact ⟨known, l, objectType, first, leads, Ne.symm other⟩

/-! ## A run of lines -/

theorem typed_of_mem_splitFrom {b b' : Block} {ls : List NumberedLine} (typed : b.Typed)
    (h : b' ∈ splitFrom b ls) : b'.Typed := by
  induction ls generalizing b with
  | nil =>
    obtain rfl := List.mem_singleton.1 h
    exact typed
  | cons l ls ih =>
    simp only [splitFrom] at h
    split at h
    · next longer taken => exact ih (typed_of_take? typed taken) h
    · rcases List.mem_cons.1 h with rfl | later
      · exact typed
      · exact ih (typed_start l) later

/-- The first of the blocks is the unfinished one with more lines. -/
theorem exists_cons_splitFrom {b : Block} {ls : List NumberedLine} (hb : b.lines ≠ []) :
    ∃ first rest, splitFrom b ls = first :: rest ∧ first.lines.head? = b.lines.head? := by
  induction ls generalizing b with
  | nil => exact ⟨b, [], rfl, rfl⟩
  | cons l ls ih =>
    simp only [splitFrom]
    split
    · next longer taken =>
      have lines := lines_of_take? taken
      obtain ⟨first, rest, blocks, head⟩ := ih (b := longer) (by simp [lines])
      refine ⟨first, rest, blocks, ?_⟩
      rw [head, lines, List.head?_append_of_ne_nil _ hb]
    · exact ⟨b, _, rfl, rfl⟩

theorem isChain_splitFrom (b : Block) (ls : List NumberedLine) :
    (splitFrom b ls).IsChain EndsBefore := by
  induction ls generalizing b with
  | nil => exact .singleton b
  | cons l ls ih =>
    simp only [splitFrom]
    split
    · next longer taken => exact ih longer
    · next refused =>
      obtain ⟨first, rest, blocks, head⟩ :=
        @exists_cons_splitFrom (start l) ls (List.cons_ne_nil _ _)
      have later := ih (start l)
      rw [blocks] at later ⊢
      exact .cons_cons (endsBefore_of_not_taken refused head) later

theorem typed_of_mem_split {b : Block} {ls : List NumberedLine} (h : b ∈ split ls) : b.Typed := by
  cases ls with
  | nil => cases h
  | cons l ls => exact typed_of_mem_splitFrom (typed_start l) h

theorem isChain_split (ls : List NumberedLine) : (split ls).IsChain EndsBefore := by
  cases ls with
  | nil => exact .nil
  | cons l ls => exact isChain_splitFrom (start l) ls

/-! ## Homogeneous blocks -/

theorem leadingTypes_flatMap (blocks : List Block) :
    leadingTypes (blocks.flatMap (·.lines)) = blocks.flatMap fun b => leadingTypes b.lines :=
  List.filterMap_flatMap ..

/-- No type comes after an empty one. -/
def EmptyLast (types : List String) : Prop :=
  types.Pairwise fun s t => s = "" → t = ""

theorem emptyLast_of_homogeneous {blocks : List Block} (chain : blocks.IsChain EndsBefore)
    (homogeneous : ∀ b ∈ blocks, b.Homogeneous) :
    EmptyLast (blocks.flatMap fun b => leadingTypes b.lines) := by
  induction blocks with
  | nil => exact .nil
  | cons b blocks ih =>
    have own : ∀ t ∈ leadingTypes b.lines, t = b.objectType := homogeneous b List.mem_cons_self
    have later := ih chain.tail fun b' h => homogeneous b' (List.mem_cons_of_mem _ h)
    refine List.pairwise_append.2 ⟨?_, later, fun s hs t ht empty => ?_⟩
    · exact List.pairwise_of_forall_mem_list fun s hs t ht empty =>
        (own t ht).trans ((own s hs).symm.trans empty)
    -- A block that another one follows has a type, so its lines do not lead with nothing.
    · cases blocks with
      | nil => cases ht
      | cons next _ =>
        obtain ⟨known, -⟩ := (List.isChain_cons_cons.1 chain).1
        exact absurd ((own s hs).symm.trans empty) known

theorem homogeneous_of_emptyLast {b : Block} (typed : b.Typed)
    (h : EmptyLast (leadingTypes b.lines)) : b.Homogeneous := by
  obtain ⟨untyped, own, types, known⟩ := typed
  intro t ht
  rw [EmptyLast, types, List.pairwise_append] at h
  rw [types, List.mem_append, List.mem_replicate, List.mem_replicate] at ht
  rcases ht with ⟨some, rfl⟩ | ⟨-, rfl⟩
  · by_cases none : own = 0
    · exact (known none).symm
    · exact (h.2.2 "" (List.mem_replicate.2 ⟨some, rfl⟩) b.objectType
        (List.mem_replicate.2 ⟨none, rfl⟩) rfl).symm
  · rfl

theorem EndsBefore.objectType_ne {b next : Block} (h : b.EndsBefore next)
    (homogeneous : next.Homogeneous) : b.objectType ≠ next.objectType := by
  obtain ⟨-, first, objectType, head, leads, other⟩ := h
  have member : objectType ∈ leadingTypes next.lines :=
    List.mem_filterMap.2 ⟨first, List.mem_of_mem_head? head, leads⟩
  rw [← homogeneous objectType member]
  exact other.symm

theorem isChain_objectType_ne {blocks : List Block} (chain : blocks.IsChain EndsBefore)
    (homogeneous : ∀ b ∈ blocks, b.Homogeneous) :
    blocks.IsChain fun b next => b.objectType ≠ next.objectType :=
  chain.imp_of_mem_imp fun _ next _ member ends => ends.objectType_ne (homogeneous next member)

/-- The lines of a block lead with nothing and then with its type, a block ends before a line of
    another type, and both add up to homogeneous blocks of alternating types exactly if no line of
    the source leads with a type after one that leads with an empty type. -/
theorem types_of_blocks (source : String) :
    (∀ b ∈ ofSource source, b.Typed) ∧ (ofSource source).IsChain EndsBefore ∧
    ((∀ b ∈ ofSource source, b.Homogeneous) ∧
        (ofSource source).IsChain (fun b next => b.objectType ≠ next.objectType) ↔
      EmptyLast (leadingTypes (NumberedLine.ofSource source))) := by
  have typed : ∀ b ∈ ofSource source, b.Typed := fun _ => typed_of_mem_split
  have chain : (ofSource source).IsChain EndsBefore := isChain_split _
  have joined : leadingTypes (NumberedLine.ofSource source) =
      (ofSource source).flatMap fun b => leadingTypes b.lines := by
    rw [← leadingTypes_flatMap, ofSource, flatMap_lines_split]
  refine ⟨typed, chain, fun h => ?_, fun h => ?_⟩
  · rw [joined]
    exact emptyLast_of_homogeneous chain h.1
  · have homogeneous : ∀ b ∈ ofSource source, b.Homogeneous := fun b hb =>
      homogeneous_of_emptyLast (typed b hb)
        (h.sublist (joined ▸ List.sublist_flatten_of_mem (List.mem_map_of_mem hb)))
    exact ⟨homogeneous, isChain_objectType_ne chain homogeneous⟩

/-- A line that leads with nothing starts a block, and the next line gives the block its type: the
    block is not homogeneous, and its type is that of the block before it. -/
theorem blocks_not_homogeneous :
    (∃ b ∈ ofSource "A > x > cube\n> y > cube\nA > z > cube", ¬ b.Homogeneous) ∧
    ¬ (ofSource "A > x > cube\n> y > cube\nA > z > cube").IsChain
      (fun b next => b.objectType ≠ next.objectType) := by
  decide +kernel

end LayeredScene.Block
