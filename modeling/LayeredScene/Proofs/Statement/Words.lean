import LayeredScene.Statement.Command

/-! # What a word can be

A word of a statement is looked up in one table after the other.  No word stands in two of them, and
no word of a table is a measurement, so that the order in which they are tried makes no difference
(`WordKind.unique`).
-/

namespace LayeredScene

/-- A word that takes the token behind it, with the name under which that is noted and what is made
    of it. -/
structure KeyWord where
  word : String
  name : String
  value : String → Detail

namespace KeyWord

def all : List KeyWord :=
  [⟨"diameter", "diameter", fun argument => .length (lengthOf argument)⟩,
   ⟨"repeat", "repeat", Command.repetitions⟩,
   ⟨"attach", "attach_to", .reference⟩]

def ofWord? (word : String) : Option KeyWord :=
  all.find? (·.word == word)

theorem note?_eq (word argument : String) :
    Command.note? word argument =
      (ofWord? word).map fun k => .note k.name (k.value argument) := by
  simp only [Command.note?, ofWord?, all, List.find?_cons, List.find?_nil]
  split
  · next named => simp [named]
  · next notDiameter =>
    rw [beq_eq_false_iff_ne.mpr (Ne.symm notDiameter)]
    split
    · next named => simp [named]
    · next notRepeat =>
      rw [beq_eq_false_iff_ne.mpr (Ne.symm notRepeat)]
      split
      · next named => simp [named]
      · next notAttach =>
        rw [beq_eq_false_iff_ne.mpr (Ne.symm notAttach)]
        rfl

variable {word : String} {k k' : KeyWord}

theorem of_ofWord? (h : ofWord? word = some k) : k ∈ all ∧ k.word = word :=
  ⟨List.mem_of_find?_eq_some h, by simpa using List.find?_some h⟩

theorem isSome_ofWord? (hk : k ∈ all) : (ofWord? k.word).isSome :=
  List.find?_isSome.mpr ⟨k, hk, beq_self_eq_true k.word⟩

/-- Different key words note their arguments under different names. -/
theorem apart (hk : k ∈ all) (hk' : k' ∈ all) (other : k ≠ k') :
    k.word ≠ k'.word ∧ k.name ≠ k'.name := by
  simp only [all, List.mem_cons, List.not_mem_nil, or_false] at hk hk'
  rcases hk with rfl | rfl | rfl <;> rcases hk' with rfl | rfl | rfl <;>
    first | exact absurd rfl other | decide

end KeyWord

/-- What a word can be found as. -/
inductive WordKind where
  | shape
  | direction
  | material
  | length
  | key
deriving DecidableEq

namespace WordKind

def all : List WordKind := [shape, direction, material, length, key]

/-- The words of the tables.  A measurement stands in none of them. -/
def words : WordKind → List String
  | shape => "box" :: Shape.all.map Shape.keyword
  | direction => Direction.table.map (·.1)
  | material => Material.vocabulary.map (·.name)
  | length => []
  | key => KeyWord.all.map (·.word)

def holds (word : String) : WordKind → Bool
  | shape => (Shape.ofKeyword? word).isSome
  | direction => (Direction.ofWord? word).isSome
  | material => (Material.ofWord? word).isSome
  | length => isLength word
  | key => (KeyWord.ofWord? word).isSome

theorem words_apart (k k' : WordKind) : ∀ word ∈ k.words, word ∈ k'.words → k = k' := by
  cases k <;> cases k' <;> decide

theorem isLength_of_mem_words (k : WordKind) : ∀ word ∈ k.words, isLength word = false := by
  cases k <;> decide

variable {word : String} {k k' : WordKind}

theorem mem_map_of_find? {α : Type} {table : List α} {name : α → String}
    (h : (table.find? (name · == word)).isSome) : word ∈ table.map name := by
  obtain ⟨x, hx⟩ := Option.isSome_iff_exists.mp h
  have named : name x = word := by simpa using List.find?_some hx
  exact named ▸ List.mem_map_of_mem (List.mem_of_find?_eq_some hx)

theorem mem_words_of_holds (h : k.holds word) (other : k ≠ length) : word ∈ k.words := by
  cases k with
  | shape =>
    simp only [holds, Shape.ofKeyword?] at h
    split at h
    · next box => exact box ▸ List.mem_cons_self
    · exact List.mem_cons_of_mem _ (mem_map_of_find? h)
  | direction =>
    obtain ⟨e, he, named⟩ := List.lookup_isSome_iff.mp h
    exact beq_iff_eq.mp named ▸ List.mem_map_of_mem he
  | material => exact mem_map_of_find? h
  | length => exact absurd rfl other
  | key => exact mem_map_of_find? h

theorem holds_key_of_mem (h : word ∈ words key) : key.holds word := by
  obtain ⟨k, hk, rfl⟩ := List.mem_map.mp h
  exact KeyWord.isSome_ofWord? hk

/-- A measurement is nothing else. -/
theorem eq_length_of_holds (measured : isLength word) (h : k.holds word) : k = length := by
  by_cases listed : k = length
  · exact listed
  · rw [isLength_of_mem_words k word (mem_words_of_holds h listed)] at measured
    cases measured

/-- A word is found as one thing at most. -/
theorem unique (h : k.holds word) (h' : k'.holds word) : k = k' := by
  by_cases measured : k = length
  · subst measured
    exact (eq_length_of_holds h h').symm
  · by_cases measured' : k' = length
    · subst measured'
      exact eq_length_of_holds h' h
    · exact words_apart k k' word (mem_words_of_holds h measured) (mem_words_of_holds h' measured')

end WordKind

end LayeredScene
