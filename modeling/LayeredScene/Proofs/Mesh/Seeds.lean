import LayeredScene.Mesh.Spec
import LayeredScene.Proofs.Bytes
import LayeredScene.Proofs.Text.Separators

/-! # Seeds depend on what they should

What is hashed into the seed of a statement can be taken apart again from the left: a text ends with
the first byte that UTF-8 never uses (`closedText_append_inj`), a number takes eight bytes whatever
they are (`words64_append_inj`), and behind the length of the modifiers there is nothing but closed
texts (`flatMap_closedText_injective`).  So two statements are spelled alike only if they agree on
everything that is hashed, and other statements have equal seeds only if the hash collides.
-/

namespace LayeredScene

/-! ## Closed texts -/

/-- The bytes of a character: the first says how many there are, and none is the closing byte. -/
theorem closing_notMem_utf8EncodeChar (c : Char) : 0xFF ∉ String.utf8EncodeChar c := by
  -- A byte made of a head and a remainder that does not reach into it.
  have apart {head low : Nat} (h : head + low < 255) :
      (0xFF : UInt8) ≠ UInt8.ofNat (low + head) := by
    intro same
    have numbers := congrArg UInt8.toNat same
    rw [UInt8.toNat_ofNat_of_lt' (Nat.lt_trans (by omega) (by decide : 255 < UInt8.size))]
      at numbers
    have closing : (0xFF : UInt8).toNat = 255 := rfl
    omega
  unfold String.utf8EncodeChar
  extract_lets v
  split
  · exact fun h => @apart 0 v (by omega) (List.mem_singleton.mp h)
  split
  · simp only [List.mem_cons, List.not_mem_nil, or_false, not_or]
    exact ⟨apart (by omega), apart (by omega)⟩
  split
  · simp only [List.mem_cons, List.not_mem_nil, or_false, not_or]
    exact ⟨apart (by omega), apart (by omega), apart (by omega)⟩
  · simp only [List.mem_cons, List.not_mem_nil, or_false, not_or]
    exact ⟨apart (by omega), apart (by omega), apart (by omega), apart (by omega)⟩

theorem closing_notMem_utf8 (s : String) : 0xFF ∉ utf8 s := by
  intro h
  obtain ⟨c, -, member⟩ := List.mem_flatMap.mp h
  exact closing_notMem_utf8EncodeChar c member

theorem utf8_injective {s t : String} (h : utf8 s = utf8 t) : s = t := by
  have read := congrArg text? h
  rw [text?_utf8, text?_utf8] at read
  exact Option.some.inj read

/-- A closed text ends at its closing byte, whatever follows it. -/
theorem closedText_append_inj {s t : String} {xs ys : List UInt8}
    (h : closedText s ++ xs = closedText t ++ ys) : s = t ∧ xs = ys := by
  simp only [closedText, List.append_assoc, List.singleton_append] at h
  obtain ⟨bytes, rest⟩ := append_cons_inj (closing_notMem_utf8 s) (closing_notMem_utf8 t) h
  exact ⟨utf8_injective bytes, rest⟩

theorem closedText_ne_nil (s : String) : closedText s ≠ [] := by
  simp [closedText]

/-- A list of closed texts that reaches to the end can be cut in one way only. -/
theorem flatMap_closedText_injective {ss ts : List String}
    (h : ss.flatMap closedText = ts.flatMap closedText) : ss = ts := by
  induction ss generalizing ts with
  | nil =>
    cases ts with
    | nil => rfl
    | cons t ts => simp [closedText_ne_nil] at h
  | cons s ss ih =>
    cases ts with
    | nil => simp [closedText_ne_nil] at h
    | cons t ts =>
      rw [List.flatMap_cons, List.flatMap_cons] at h
      obtain ⟨first, rest⟩ := closedText_append_inj h
      rw [first, ih rest]

/-! ## Numbers -/

theorem length_littleEndian64 (w : UInt64) : (littleEndian64 w).length = 8 :=
  length_lowBytes 8 w.toNat

theorem littleEndian64_injective {v w : UInt64} (h : littleEndian64 v = littleEndian64 w) :
    v = w := by
  have numbers := congrArg ofLowBytes h
  have small (w : UInt64) : w.toNat < 256 ^ 8 := w.toNat_lt
  rw [littleEndian64, littleEndian64, ofLowBytes_lowBytes, ofLowBytes_lowBytes,
    Nat.mod_eq_of_lt (small v), Nat.mod_eq_of_lt (small w)] at numbers
  exact UInt64.toNat_inj.mp numbers

/-- As many words are followed by the rest, even if their bytes occur in texts. -/
theorem words64_append_inj {vs ws : List UInt64} {xs ys : List UInt8}
    (count : vs.length = ws.length)
    (h : vs.flatMap littleEndian64 ++ xs = ws.flatMap littleEndian64 ++ ys) :
    vs = ws ∧ xs = ys := by
  induction vs generalizing ws with
  | nil =>
    obtain rfl := List.length_eq_zero_iff.mp count.symm
    exact ⟨rfl, h⟩
  | cons v vs ih =>
    cases ws with
    | nil => cases count
    | cons w ws =>
      rw [List.flatMap_cons, List.flatMap_cons, List.append_assoc, List.append_assoc] at h
      obtain ⟨first, later⟩ := List.append_inj h (by simp only [length_littleEndian64])
      obtain ⟨others, rest⟩ := ih (Nat.succ.inj count) later
      exact ⟨by rw [littleEndian64_injective first, others], rest⟩

/-! ## Shapes -/

theorem Shape.keyword_injective {a b : Shape} (h : a.keyword = b.keyword) : a = b := by
  revert h
  cases a <;> cases b <;> decide

/-! ## Statements -/

namespace Statement

/-- The statements agree on everything that is hashed. -/
structure SeededAlike (s t : Statement) : Prop where
  objectType : s.objectType = t.objectType
  layer : s.layer = t.layer
  shape : s.shape = t.shape
  /-- Bit by bit, so that the two zeros are different. -/
  position : s.position.map bitsOf = t.position.map bitsOf
  size : s.size.map bitsOf = t.size.map bitsOf
  rotation : s.rotation.map bitsOf = t.rotation.map bitsOf
  material : s.material.name = t.material.name
  modifiers : s.modifiers = t.modifiers

variable {s t : Statement}

theorem coordinates_bits (s : Statement) :
    s.coordinates.map bitsOf = (s.position.map bitsOf).toList ++ (s.size.map bitsOf).toList ++
      (s.rotation.map bitsOf).toList := rfl

theorem length_coordinates (s : Statement) : s.coordinates.length = 9 := rfl

theorem seedBytes_eq (s : Statement) :
    s.seedBytes = closedText s.objectType ++ (closedText s.layer ++ (closedText s.shape.keyword ++
      ((s.coordinates.map bitsOf).flatMap littleEndian64 ++ (closedText s.material.name ++
        (littleEndian64 (UInt64.ofNat s.modifiers.length) ++
          s.modifiers.flatMap closedText))))) := by
  simp only [seedBytes, List.flatMap_map, List.append_assoc]

theorem SeededAlike.seedBytes_eq (alike : s.SeededAlike t) : s.seedBytes = t.seedBytes := by
  have coordinates : s.coordinates.map bitsOf = t.coordinates.map bitsOf := by
    rw [coordinates_bits, coordinates_bits, alike.position, alike.size, alike.rotation]
  rw [Statement.seedBytes_eq, Statement.seedBytes_eq, alike.objectType, alike.layer, alike.shape,
    coordinates, alike.material, alike.modifiers]

theorem bits_of_coordinates
    (h : s.coordinates.map bitsOf = t.coordinates.map bitsOf) :
    s.position.map bitsOf = t.position.map bitsOf ∧ s.size.map bitsOf = t.size.map bitsOf ∧
      s.rotation.map bitsOf = t.rotation.map bitsOf := by
  simp only [coordinates_bits, Triple.toList, List.cons_append, List.nil_append, List.cons.injEq,
    and_true] at h
  simp only [Triple.map, Triple.mk.injEq] at h ⊢
  tauto

/-- The hashed bytes are taken apart from the left, field by field. -/
theorem seededAlike_of_seedBytes_eq (h : s.seedBytes = t.seedBytes) : s.SeededAlike t := by
  rw [Statement.seedBytes_eq, Statement.seedBytes_eq] at h
  obtain ⟨objectType, h⟩ := closedText_append_inj h
  obtain ⟨layer, h⟩ := closedText_append_inj h
  obtain ⟨keyword, h⟩ := closedText_append_inj h
  obtain ⟨coordinates, h⟩ :=
    words64_append_inj (by simp only [List.length_map, length_coordinates]) h
  obtain ⟨material, h⟩ := closedText_append_inj h
  -- The length is not needed, as the modifiers reach to the end.
  obtain ⟨-, modifiers⟩ := List.append_inj h (by simp only [length_littleEndian64])
  obtain ⟨position, size, rotation⟩ := bits_of_coordinates coordinates
  exact
    { objectType, layer, position, size, rotation, material
      shape := Shape.keyword_injective keyword
      modifiers := flatMap_closedText_injective modifiers }

theorem seedBytes_eq_iff : s.seedBytes = t.seedBytes ↔ s.SeededAlike t :=
  ⟨seededAlike_of_seedBytes_eq, SeededAlike.seedBytes_eq⟩

end Statement

/-- Different messages with the same hash under a key. -/
def SipCollision (k0 k1 : UInt64) (message message' : List UInt8) : Prop :=
  message ≠ message' ∧ sipHash k0 k1 message = sipHash k0 k1 message'

/-- What is hashed for two statements is the same exactly if they agree on it all, field by field;
    their seeds are equal only if they do or the hash collides.  Details, and of the material
    everything but its name, never matter. -/
theorem Statement.seeds_of_statements (s t : Statement) (base : UInt64) :
    (s.seedBytes = t.seedBytes ↔ s.SeededAlike t) ∧
    (s.seed base = t.seed base ↔
      s.SeededAlike t ∨ SipCollision base 0 s.seedBytes t.seedBytes) ∧
    ∀ (details : SortedMap Detail) (material : Material),
      ({ s with details, material := { material with name := s.material.name } } : Statement).seed
        base = s.seed base := by
  refine ⟨seedBytes_eq_iff, ?_, fun details material => ?_⟩
  · rw [← seedBytes_eq_iff, SipCollision, seed, seed]
    constructor
    · intro same
      by_cases spelled : s.seedBytes = t.seedBytes
      · exact .inl spelled
      · exact .inr ⟨spelled, same⟩
    · rintro (spelled | ⟨-, same⟩)
      · rw [spelled]
      · exact same
  · have alike : ({ s with
        details
        material := { material with name := s.material.name } } : Statement).SeededAlike s :=
      ⟨rfl, rfl, rfl, rfl, rfl, rfl, rfl, rfl⟩
    rw [seed, seed, alike.seedBytes_eq]

/-- The same letters, divided between type and layer in another way. -/
example : (Statement.plain "AB" "c").seedBytes ≠ (Statement.plain "A" "Bc").seedBytes := by
  decide +kernel

end LayeredScene
