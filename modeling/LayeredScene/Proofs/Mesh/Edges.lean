import LayeredScene.Proofs.Mesh.Arrays
import LayeredScene.Proofs.Mesh.Validity

/-! # Directed edges

A triangle of an index buffer has three directed edges, from each corner to the next.  Whether the
triangles of a buffer fit together is a matter of how often an edge and its reverse occur, and that
does not depend on how the corners are named: `count_directedEdges_map` moves a count from words to
the numbers, or the positions in a grid, that they stand for.
-/

namespace LayeredScene

variable {ι κ : Type}

/-- The directed edges of the triangles in a list of corners. -/
def directedEdges : List ι → List (ι × ι)
  | a :: b :: c :: rest => (a, b) :: (b, c) :: (c, a) :: directedEdges rest
  | _ => []

theorem directedEdges_map (f : ι → κ) (corners : List ι) :
    directedEdges (corners.map f) = (directedEdges corners).map (Prod.map f f) := by
  fun_induction directedEdges corners with
  | case1 a b c rest ih => simp [directedEdges, ih]
  | case2 corners short =>
    unfold directedEdges
    split
    · next a b c rest three =>
      obtain ⟨a', _, rfl, -, three⟩ := List.map_eq_cons_iff.mp three
      obtain ⟨b', _, rfl, -, three⟩ := List.map_eq_cons_iff.mp three
      obtain ⟨c', _, rfl, -, -⟩ := List.map_eq_cons_iff.mp three
      exact (short _ _ _ _ rfl).elim
    · rfl

theorem directedEdges_triangles_append (f : Face ι) (corners : List ι) :
    directedEdges (f.triangles ++ corners) =
      directedEdges f.triangles ++ directedEdges corners := by
  cases f <;> rfl

theorem directedEdges_flatMap_triangles (faces : List (Face ι)) :
    directedEdges (faces.flatMap (·.triangles)) =
      faces.flatMap fun f => directedEdges f.triangles := by
  induction faces with
  | nil => rfl
  | cons f faces ih => rw [List.flatMap_cons, directedEdges_triangles_append, ih, List.flatMap_cons]

theorem count_directedEdges_map [DecidableEq ι] [DecidableEq κ] {f : ι → κ}
    (injective : f.Injective) (corners : List ι) (e : ι × ι) :
    (directedEdges (corners.map f)).count (e.map f f) = (directedEdges corners).count e := by
  rw [directedEdges_map]
  exact List.count_map_of_injective _ _ (injective.prodMap injective) _

/-! ## Edges and their reverses -/

/-- Every directed edge occurs once, and so does its reverse. -/
def ClosedSurface [DecidableEq ι] (corners : List ι) : Prop :=
  ∀ e ∈ directedEdges corners,
    (directedEdges corners).count e = 1 ∧ (directedEdges corners).count e.swap = 1

/-- Every directed edge occurs once, and so does its reverse unless the edge is on the border. -/
def BorderedSurface [DecidableEq ι] (border : ι × ι → Prop) (corners : List ι) : Prop :=
  ∀ e ∈ directedEdges corners, (directedEdges corners).count e = 1 ∧
    (border e → (directedEdges corners).count e.swap = 0) ∧
    (¬ border e → (directedEdges corners).count e.swap = 1)

variable [DecidableEq ι] [DecidableEq κ]

theorem borderedSurface_of_nodup {border : ι × ι → Prop} {corners : List ι}
    (nodup : (directedEdges corners).Nodup)
    (swap : ∀ e ∈ directedEdges corners, e.swap ∈ directedEdges corners ↔ ¬ border e) :
    BorderedSurface border corners := fun e he =>
  ⟨List.count_eq_one_of_mem nodup he,
    fun outer => List.count_eq_zero.mpr fun back => (swap e he).mp back outer,
    fun inner => List.count_eq_one_of_mem nodup ((swap e he).mpr inner)⟩

theorem closedSurface_iff {corners : List ι} :
    ClosedSurface corners ↔ BorderedSurface (fun _ => False) corners := by
  simp [ClosedSurface, BorderedSurface]

/-- The names of the corners do not matter. -/
theorem BorderedSurface.of_map {border : κ × κ → Prop} {f : ι → κ} (injective : f.Injective)
    {corners : List ι} (h : BorderedSurface border (corners.map f)) :
    BorderedSurface (fun e => border (e.map f f)) corners := by
  intro e he
  have mapped : e.map f f ∈ directedEdges (corners.map f) := by
    rw [directedEdges_map]
    exact List.mem_map_of_mem he
  have reverse : (e.map f f).swap = e.swap.map f f := rfl
  have counts := h (e.map f f) mapped
  rw [reverse, count_directedEdges_map injective, count_directedEdges_map injective] at counts
  exact counts

/-! ## The corners of a mesh -/

namespace Mesh

/-- Within the bounds the corners of a mesh are those of the faces of its shape. -/
theorem toNat_corners {shape : Shape} {n : Nat} {m : Mesh} (hn : 1 ≤ n)
    (bounded : n ≤ mostDivisions shape)
    (faces : m.faces = (facesOf shape n).map (·.map UInt32.ofNat)) :
    m.corners.map UInt32.toNat = (facesOf shape n).flatMap (·.triangles) := by
  simp only [corners, faces, List.map_flatMap, List.flatMap_map, Face.triangles_map, List.map_map]
  refine List.flatMap_congr fun f hf => ?_
  have unchanged : ∀ v ∈ f.triangles, (UInt32.toNat ∘ UInt32.ofNat) v = v := fun v hv =>
    toNat_ofNat_of_mem_facesOf hn bounded hf (Face.mem_triangles_iff.mp hv)
  rw [List.map_congr_left unchanged, List.map_id']

end Mesh

end LayeredScene
