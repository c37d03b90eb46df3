import LayeredScene.Proofs.Mesh.Faces

/-! # Face indices in the arithmetic of words

The generators number vertices with words of 32 bits.  Here the same numbers are computed with every
operation checked, so that nothing comes out where a sum or a product does not fit a word, and this
is compared with the faces that a mesh has.

`lowerWord?_eq` and its like are the point: in a formula without a difference the intermediate
results are no larger than the final one, so that checking every operation is the same as checking
the exact result once.  An overflow is then an index that is too large, and as every vertex is a
corner (`exists_mem_indices`), there is one exactly if there are too many vertices.  Only the grid
fails earlier: it also computes the number of its vertices.
-/

namespace LayeredScene

/-! ## Checked operations -/

/-- A number as a word, if it fits. -/
def wordOf? (n : Nat) : Option UInt32 :=
  if n < UInt32.size then some (UInt32.ofNat n) else none

def sum? (a b : UInt32) : Option UInt32 := wordOf? (a.toNat + b.toNat)

def product? (a b : UInt32) : Option UInt32 := wordOf? (a.toNat * b.toNat)

def difference? (a b : UInt32) : Option UInt32 := if b ≤ a then some (a - b) else none

/-- The face with its indices as words, if all of them fit. -/
def Face.words? : Face Nat → Option (Face UInt32)
  | .tri a b c => return .tri (← wordOf? a) (← wordOf? b) (← wordOf? c)
  | .quad a b c d => return .quad (← wordOf? a) (← wordOf? b) (← wordOf? c) (← wordOf? d)

namespace Mesh

/-! ## The faces of a shape, with every operation checked -/

def wordsBelow (n : UInt32) : List UInt32 := (List.range n.toNat).map UInt32.ofNat

def lowerWord? (n i : UInt32) : Option UInt32 := do sum? 2 (← product? 2 (i % n))

def upperWord? (n i : UInt32) : Option UInt32 := do sum? 3 (← product? 2 (i % n))

def rimWord? (n i : UInt32) : Option UInt32 := sum? 2 (i % n)

def cylinderFaceWords? (n : UInt32) : Option (List (Face UInt32)) := do
  let base ← (wordsBelow n).mapM fun i => do
    return .tri 0 (← lowerWord? n i) (← lowerWord? n (← sum? i 1))
  let top ← (wordsBelow n).mapM fun i => do
    return .tri 1 (← upperWord? n (← sum? i 1)) (← upperWord? n i)
  let side ← (wordsBelow n).mapM fun i => do
    return .quad (← lowerWord? n i) (← upperWord? n i) (← upperWord? n (← sum? i 1))
      (← lowerWord? n (← sum? i 1))
  return base ++ top ++ side

def coneFaceWords? (n : UInt32) : Option (List (Face UInt32)) := do
  let base ← (wordsBelow n).mapM fun i => do
    return .tri 0 (← rimWord? n i) (← rimWord? n (← sum? i 1))
  let side ← (wordsBelow n).mapM fun i => do
    return .tri 1 (← rimWord? n (← sum? i 1)) (← rimWord? n i)
  return base ++ side

/-- The first and the third corner of a cell are computed, and the others are next to them. -/
def cellWords? (stride row column : UInt32) : Option (Face UInt32) := do
  let first ← sum? (← product? row stride) column
  let third ← sum? (← sum? (← product? (← sum? row 1) stride) column) 1
  return .quad first (← sum? first 1) third (← difference? third 1)

/-- The numbers of vertices and of faces are computed before the faces. -/
def gridFaceWords? (n : UInt32) : Option (List (Face UInt32)) := do
  let stride ← sum? n 1
  let _vertices ← product? stride stride
  let _faces ← product? n n
  let rows ← (wordsBelow n).mapM fun row => (wordsBelow n).mapM fun column =>
    cellWords? stride row column
  return rows.flatten

/-- The faces of a shape, if no operation on words overflows.  Those of a cube and of a pyramid are
    written down and not computed. -/
def faceWords? (shape : Shape) (p : ShapeSpec) : Option (List (Face UInt32)) :=
  let n := max p.segments fewestDivisions
  match shape with
  | .cube => some (box p.size).faces
  | .pyramid => some (pyramid p.size).faces
  | .cylinder => cylinderFaceWords? n
  | .cone => coneFaceWords? n
  | .sphere | .blob | .egg | .droplet => gridFaceWords? n

/-- The greatest number of divisions for which no operation overflows; for a cube and a pyramid it
    is the greatest word. -/
def mostDivisions : Shape → Nat
  | .cube | .pyramid => 2 ^ 32 - 1
  | .cylinder => 2 ^ 31 - 1
  | .cone => 2 ^ 32 - 2
  | .sphere | .blob | .egg | .droplet => 65534

/-! ## One index -/

variable {n i : Nat}

theorem wordOf?_of_lt (h : n < UInt32.size) : wordOf? n = some (UInt32.ofNat n) := if_pos h

theorem wordOf?_eq_none (h : UInt32.size ≤ n) : wordOf? n = none := if_neg (Nat.not_lt.mpr h)

theorem sum?_ofNat {a b : Nat} (ha : a < UInt32.size) (hb : b < UInt32.size) :
    sum? (UInt32.ofNat a) (UInt32.ofNat b) = wordOf? (a + b) := by
  rw [sum?, UInt32.toNat_ofNat_of_lt' ha, UInt32.toNat_ofNat_of_lt' hb]

theorem product?_ofNat {a b : Nat} (ha : a < UInt32.size) (hb : b < UInt32.size) :
    product? (UInt32.ofNat a) (UInt32.ofNat b) = wordOf? (a * b) := by
  rw [product?, UInt32.toNat_ofNat_of_lt' ha, UInt32.toNat_ofNat_of_lt' hb]

/-- A sum with a checked term is checked once. -/
theorem wordOf?_bind_sum? {a b : Nat} (ha : a < UInt32.size) :
    (wordOf? b).bind (sum? (UInt32.ofNat a)) = wordOf? (a + b) := by
  rcases Nat.lt_or_ge b UInt32.size with small | large
  · rw [wordOf?_of_lt small, Option.bind_some, sum?_ofNat ha small]
  · rw [wordOf?_eq_none large, wordOf?_eq_none (by omega), Option.bind_none]

theorem ofNat_mod (hn : n < UInt32.size) (hi : i < UInt32.size) :
    UInt32.ofNat i % UInt32.ofNat n = UInt32.ofNat (i % n) :=
  (UInt32.ofNat_mod hi hn).symm

theorem lowerWord?_eq (hn : n < UInt32.size) (hi : i < UInt32.size) :
    lowerWord? (UInt32.ofNat n) (UInt32.ofNat i) = wordOf? (lowerIndex n i) := by
  have small : i % n < UInt32.size := Nat.lt_of_le_of_lt (Nat.mod_le i n) hi
  change (product? (UInt32.ofNat 2) _).bind (sum? (UInt32.ofNat 2)) = _
  rw [ofNat_mod hn hi, product?_ofNat (by decide) small, wordOf?_bind_sum? (by decide), lowerIndex]

theorem upperWord?_eq (hn : n < UInt32.size) (hi : i < UInt32.size) :
    upperWord? (UInt32.ofNat n) (UInt32.ofNat i) = wordOf? (upperIndex n i) := by
  have small : i % n < UInt32.size := Nat.lt_of_le_of_lt (Nat.mod_le i n) hi
  change (product? (UInt32.ofNat 2) _).bind (sum? (UInt32.ofNat 3)) = _
  rw [ofNat_mod hn hi, product?_ofNat (by decide) small, wordOf?_bind_sum? (by decide), upperIndex]

theorem rimWord?_eq (hn : n < UInt32.size) (hi : i < UInt32.size) :
    rimWord? (UInt32.ofNat n) (UInt32.ofNat i) = wordOf? (rimIndex n i) := by
  have small : i % n < UInt32.size := Nat.lt_of_le_of_lt (Nat.mod_le i n) hi
  change sum? (UInt32.ofNat 2) _ = _
  rw [ofNat_mod hn hi, sum?_ofNat (by decide) small, rimIndex]

theorem sum?_one (hi : i + 1 < UInt32.size) :
    sum? (UInt32.ofNat i) 1 = some (UInt32.ofNat (i + 1)) := by
  rw [← wordOf?_of_lt hi]
  exact sum?_ofNat (Nat.lt_of_succ_lt hi) (by decide)

theorem difference?_one (hi : i + 1 < UInt32.size) :
    difference? (UInt32.ofNat (i + 1)) 1 = some (UInt32.ofNat i) := by
  have one : (1 : UInt32) ≤ UInt32.ofNat (i + 1) := by
    rw [UInt32.le_iff_toNat_le, UInt32.toNat_ofNat_of_lt' hi]
    exact Nat.le_add_left 1 i
  rw [difference?, if_pos one, UInt32.ofNat_add]
  exact congrArg some (UInt32.add_sub_cancel _ _)

/-! ## One face -/

theorem words?_of_lt {f : Face Nat} (h : ∀ v ∈ f.indices, v < UInt32.size) :
    f.words? = some (f.map UInt32.ofNat) := by
  cases f with
  | tri a b c =>
    simp only [Face.indices, List.forall_mem_cons] at h
    simp [Face.words?, Face.map, wordOf?_of_lt, h]
  | quad a b c d =>
    simp only [Face.indices, List.forall_mem_cons] at h
    simp [Face.words?, Face.map, wordOf?_of_lt, h]

theorem words?_eq_none {f : Face Nat} {v : Nat} (hv : v ∈ f.indices) (large : UInt32.size ≤ v) :
    f.words? = none := by
  have none := wordOf?_eq_none large
  cases f with
  | tri a b c =>
    simp only [Face.indices, List.mem_cons, List.not_mem_nil, or_false] at hv
    rcases hv with rfl | rfl | rfl <;> simp [Face.words?, none]
  | quad a b c d =>
    simp only [Face.indices, List.mem_cons, List.not_mem_nil, or_false] at hv
    rcases hv with rfl | rfl | rfl | rfl <;> simp [Face.words?, none]

/-! ## All faces -/

theorem mapM_wordsBelow {n : UInt32} {face? : UInt32 → Option (Face UInt32)}
    (face : Nat → Face Nat) (h : ∀ i < n.toNat, face? (UInt32.ofNat i) = (face i).words?) :
    (wordsBelow n).mapM face? = ((List.range n.toNat).map face).mapM Face.words? := by
  rw [wordsBelow, List.mapM_map, List.mapM_map]
  exact mapM_congr fun i hi => h i (List.mem_range.mp hi)

/-- Checking every operation is checking the exact indices. -/
theorem cylinderFaceWords?_eq (n : UInt32) :
    cylinderFaceWords? n = (cylinderFaces n.toNat).mapM Face.words? := by
  have hn : n.toNat < UInt32.size := n.toNat_lt_size
  have lower := @lowerWord?_eq n.toNat
  have upper := @upperWord?_eq n.toNat
  rw [UInt32.ofNat_toNat] at lower upper
  have zero : wordOf? 0 = some 0 := rfl
  have one : wordOf? 1 = some 1 := rfl
  simp only [cylinderFaceWords?, cylinderFaces, List.mapM_append]
  rw [mapM_wordsBelow fun i => .tri 0 (lowerIndex n.toNat i) (lowerIndex n.toNat (i + 1)),
    mapM_wordsBelow fun i => .tri 1 (upperIndex n.toNat (i + 1)) (upperIndex n.toNat i),
    mapM_wordsBelow fun i => .quad (lowerIndex n.toNat i) (upperIndex n.toNat i)
      (upperIndex n.toNat (i + 1)) (lowerIndex n.toNat (i + 1))]
  · simp only [bind_assoc, pure_bind]
  all_goals
    intro i hi
    have small : i < UInt32.size := Nat.lt_trans hi hn
    have next : i + 1 < UInt32.size := Nat.lt_of_le_of_lt hi hn
    simp only [Face.words?, zero, one, sum?_one next, lower hn small, lower hn next,
      upper hn small, upper hn next, Option.bind_eq_bind, Option.bind_some]

theorem coneFaceWords?_eq (n : UInt32) :
    coneFaceWords? n = (coneFaces n.toNat).mapM Face.words? := by
  have hn : n.toNat < UInt32.size := n.toNat_lt_size
  have rim := @rimWord?_eq n.toNat
  rw [UInt32.ofNat_toNat] at rim
  have zero : wordOf? 0 = some 0 := rfl
  have one : wordOf? 1 = some 1 := rfl
  simp only [coneFaceWords?, coneFaces, List.mapM_append]
  rw [mapM_wordsBelow fun i => .tri 0 (rimIndex n.toNat i) (rimIndex n.toNat (i + 1)),
    mapM_wordsBelow fun i => .tri 1 (rimIndex n.toNat (i + 1)) (rimIndex n.toNat i)]
  all_goals
    intro i hi
    have small : i < UInt32.size := Nat.lt_trans hi hn
    have next : i + 1 < UInt32.size := Nat.lt_of_le_of_lt hi hn
    simp only [Face.words?, zero, one, sum?_one next, rim hn small, rim hn next,
      Option.bind_eq_bind, Option.bind_some]

/-- The exact indices all fit exactly if the number of vertices does, as every vertex is used. -/
theorem mapM_words?_facesOf (shape : Shape) (hn : 1 ≤ n) :
    (facesOf shape n).mapM Face.words? =
      if vertexCountOf shape n ≤ UInt32.size then
        some ((facesOf shape n).map (·.map UInt32.ofNat))
      else none := by
  split
  · next few =>
    exact mapM_eq_some_map fun f hf =>
      words?_of_lt fun v hv => Nat.lt_of_lt_of_le (lt_vertexCountOf hn hf hv) few
  · next many =>
    obtain ⟨f, hf, hv⟩ := exists_mem_indices hn (Nat.lt_of_not_le many)
    exact mapM_eq_none_of_mem hf (words?_eq_none hv (Nat.le_refl _))

/-! ## The grid -/

theorem cellWords?_eq (small : (n + 1) ^ 2 < UInt32.size) {row column : Nat} (hr : row < n)
    (hc : column < n) :
    cellWords? (UInt32.ofNat (n + 1)) (UInt32.ofNat row) (UInt32.ofNat column) =
      some ((Face.quad (gridIndex n row column) (gridIndex n row (column + 1))
        (gridIndex n (row + 1) (column + 1)) (gridIndex n (row + 1) column)).map UInt32.ofNat) := by
  -- All that is computed is at most the index of a corner, and the corners can be counted.
  have corner {r c : Nat} (hr : r ≤ n) (hc : c ≤ n) : gridIndex n r c < UInt32.size :=
    Nat.lt_trans (gridIndex_lt hr hc) small
  have side : n + 1 < UInt32.size := Nat.lt_of_le_of_lt (Nat.le_self_pow (by decide) _) small
  have start {r : Nat} (hr : r ≤ n) : r * (n + 1) < UInt32.size := corner hr (Nat.zero_le n)
  have product {r : Nat} (hr : r ≤ n) :
      product? (UInt32.ofNat r) (UInt32.ofNat (n + 1)) = some (UInt32.ofNat (r * (n + 1))) := by
    rw [product?_ofNat (by omega) side, wordOf?_of_lt (start hr)]
  have sum {r : Nat} (hr : r ≤ n) : sum? (UInt32.ofNat (r * (n + 1))) (UInt32.ofNat column) =
      some (UInt32.ofNat (gridIndex n r column)) := by
    rw [sum?_ofNat (start hr) (by omega)]
    exact wordOf?_of_lt (corner hr hc.le)
  have next {r : Nat} (hr : r ≤ n) : sum? (UInt32.ofNat (gridIndex n r column)) 1 =
      some (UInt32.ofNat (gridIndex n r (column + 1))) := sum?_one (corner hr hc)
  have third : difference? (UInt32.ofNat (gridIndex n (row + 1) (column + 1))) 1 =
      some (UInt32.ofNat (gridIndex n (row + 1) column)) := difference?_one (corner hr hc)
  have below : sum? (UInt32.ofNat row) 1 = some (UInt32.ofNat (row + 1)) := sum?_one (by omega)
  simp only [cellWords?, below, product hr.le, product hr, sum hr.le, sum hr, next hr.le, next hr,
    third, Face.map, Option.bind_eq_bind, Option.bind_some, Option.pure_def]

theorem gridFaceWords?_eq (n : UInt32) :
    gridFaceWords? n = if (n.toNat + 1) ^ 2 < UInt32.size then
      some ((gridFaces n.toNat).map (·.map UInt32.ofNat)) else none := by
  have hn : n.toNat < UInt32.size := n.toNat_lt_size
  have stride : sum? n 1 = wordOf? (n.toNat + 1) := rfl
  split
  · next small =>
    have side : n.toNat + 1 < UInt32.size :=
      Nat.lt_of_le_of_lt (Nat.le_self_pow (by decide) _) small
    have fewer : n.toNat * n.toNat < UInt32.size := by
      refine Nat.lt_of_le_of_lt ?_ small
      rw [← Nat.pow_two]
      exact Nat.pow_le_pow_left (Nat.le_succ _) 2
    have vertices : product? (UInt32.ofNat (n.toNat + 1)) (UInt32.ofNat (n.toNat + 1)) =
        some (UInt32.ofNat ((n.toNat + 1) ^ 2)) := by
      rw [product?_ofNat side side, ← Nat.pow_two, wordOf?_of_lt small]
    have faces : product? n n = some (UInt32.ofNat (n.toNat * n.toNat)) := wordOf?_of_lt fewer
    have rows := mapM_eq_some_map fun row hr => mapM_eq_some_map fun column hc =>
      cellWords?_eq small (List.mem_range.mp hr) (List.mem_range.mp hc)
    simp only [gridFaceWords?, stride, wordOf?_of_lt side, vertices, faces, wordsBelow,
      List.mapM_map, Function.comp_def, rows, Option.bind_eq_bind, Option.bind_some,
      Option.pure_def, ← List.flatMap_def, gridFaces, List.map_flatMap, List.map_map]
  · next large =>
    rcases Nat.lt_or_ge (n.toNat + 1) UInt32.size with side | side
    · have vertices :
          product? (UInt32.ofNat (n.toNat + 1)) (UInt32.ofNat (n.toNat + 1)) = none := by
        rw [product?_ofNat side side, ← Nat.pow_two, wordOf?_eq_none (Nat.le_of_not_lt large)]
      simp only [gridFaceWords?, stride, wordOf?_of_lt side, vertices, Option.bind_eq_bind,
        Option.bind_some, Option.bind_none]
    · simp only [gridFaceWords?, stride, wordOf?_eq_none side, Option.bind_eq_bind,
        Option.bind_none]

end Mesh

end LayeredScene
