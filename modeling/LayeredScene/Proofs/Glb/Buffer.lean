import LayeredScene.Proofs.Glb.Viewer
import LayeredScene.Proofs.Positions

/-! # The buffer of a glTF document

The exported geometries lie in the buffer one after the other.  For the `k`-th of them, the buffer
views and accessors `2 * k` and `2 * k + 1` lead to the words of its positions and of its indices.
`joinedBefore (·.bytes)` is where a geometry starts: as both the offsets and the buffer are built
from left to right, an induction on the geometries shows that the offset of a view is that place.
-/

namespace LayeredScene

/-! ## The words of a geometry -/

def SceneGeometry.positionWords (g : SceneGeometry) : List UInt32 :=
  g.positions.values.map bitsOfSingle

theorem singleBytes_eq (xs : List Float32) :
    singleBytes xs = (xs.map bitsOfSingle).flatMap littleEndian32 := by
  rw [singleBytes, List.flatMap_map]

theorem SceneGeometry.bytes_eq (g : SceneGeometry) :
    g.bytes = g.positionWords.flatMap littleEndian32 ++
      g.indices.values.flatMap littleEndian32 := by
  rw [bytes, singleBytes_eq, positionWords, indexBytes]

theorem SceneGeometry.length_positionWords (g : SceneGeometry) :
    g.positionWords.length = g.positions.values.length := by
  rw [positionWords, List.length_map]

theorem SceneGeometry.length_bytes (g : SceneGeometry) :
    g.bytes.length = 4 * g.positions.values.length + 4 * g.indices.values.length := by
  rw [bytes_eq, List.length_append, length_flatMap_littleEndian32, length_flatMap_littleEndian32,
    length_positionWords]

namespace Gltf

variable {gs : List SceneGeometry} {k : Nat} {g : SceneGeometry}

/-! ## Views and accessors -/

/-- Where the bytes of a geometry start. -/
def startOf (gs : List SceneGeometry) (k : Nat) : Nat :=
  joinedBefore (·.bytes) gs k

def viewsOf (g : SceneGeometry) (offset : Nat) : List BufferView :=
  [⟨offset, 4 * g.positions.values.length, .vertices⟩,
    ⟨offset + 4 * g.positions.values.length, 4 * g.indices.values.length, .indices⟩]

theorem viewsFrom_cons (offset : Nat) (g : SceneGeometry) (gs : List SceneGeometry) :
    viewsFrom offset (g :: gs) = viewsOf g offset ++ viewsFrom (offset + g.bytes.length) gs := by
  rw [viewsFrom, viewsOf, g.length_bytes, Nat.add_assoc offset]
  rfl

theorem getElem?_viewsFrom (offset : Nat) (hk : gs[k]? = some g) {i : Nat} (hi : i < 2) :
    (viewsFrom offset gs)[2 * k + i]? = (viewsOf g (offset + startOf gs k))[i]? := by
  induction gs generalizing offset k with
  | nil => simp at hk
  | cons g' gs ih =>
    rw [viewsFrom_cons]
    cases k with
    | zero =>
      cases hk
      rw [Nat.mul_zero, Nat.zero_add, List.getElem?_append_left (by simpa [viewsOf] using hi)]
      simp [startOf, joinedBefore]
    | succ k =>
      -- Behind the first geometry, places are counted from the end of its bytes.
      have start : startOf (g' :: gs) (k + 1) = g'.bytes.length + startOf gs k := by
        simp [startOf, joinedBefore]
      rw [show 2 * (k + 1) + i = (viewsOf g' offset).length + (2 * k + i) by simp [viewsOf]; omega,
        List.getElem?_append_right (Nat.le_add_right _ _), Nat.add_sub_cancel_left,
        ih _ (by simpa using hk), start, Nat.add_assoc]

theorem getElem?_accessors (hk : gs[k]? = some g) {i : Nat} (hi : i < 2) :
    (gs.zipIdx.flatMap fun (g, k) => accessorsOf g k)[2 * k + i]? = (accessorsOf g k)[i]? := by
  have inside : k < gs.length := lt_length_of_getElem? hk
  have pairs : ∀ x ∈ gs.zipIdx, (accessorsOf x.1 x.2).length = 2 := fun _ _ => rfl
  have start := joinedBefore_of_length pairs (k := k) (by simpa using Nat.le_of_lt inside)
  have here : gs.zipIdx[k]? = some (g, k) := by simp [List.getElem?_zipIdx, hk]
  rw [← start]
  exact getElem?_flatMap_joinedBefore here hi

/-! ## The words that a view leads to -/

/-- A view holds the words whose bytes lie there. -/
theorem holdsWords_of_split {before after : List UInt8} {words : List UInt32} {buffer : List UInt8}
    (split : buffer = before ++ (words.flatMap littleEndian32 ++ after)) (target : ViewTarget) :
    Glb.HoldsWords buffer ⟨before.length, 4 * words.length, target⟩ words := by
  have length := length_flatMap_littleEndian32 words
  subst split
  constructor
  · simp only [List.length_append]
    omega
  · rw [List.drop_left, ← length, List.take_left, words?_flatMap]

theorem buffer_split (hk : gs[k]? = some g) :
    gs.flatMap (·.bytes) = (gs.take k).flatMap (·.bytes) ++
      (g.positionWords.flatMap littleEndian32 ++ (g.indices.values.flatMap littleEndian32 ++
        (gs.drop (k + 1)).flatMap (·.bytes))) := by
  have split := congrArg (List.flatMap (·.bytes)) (take_append_getElem_cons hk)
  rw [List.flatMap_append, List.flatMap_cons, g.bytes_eq] at split
  rw [split]
  simp only [List.append_assoc]

theorem holdsWords_views (hk : gs[k]? = some g) :
    (∃ v, (viewsFrom 0 gs)[2 * k]? = some v ∧
      Glb.HoldsWords (gs.flatMap (·.bytes)) v g.positionWords) ∧
    (∃ v, (viewsFrom 0 gs)[2 * k + 1]? = some v ∧
      Glb.HoldsWords (gs.flatMap (·.bytes)) v g.indices.values) := by
  have split := buffer_split hk
  refine ⟨⟨_, getElem?_viewsFrom 0 hk (i := 0) (by decide), ?_⟩,
    ⟨_, getElem?_viewsFrom 0 hk (i := 1) (by decide), ?_⟩⟩
  · rw [Nat.zero_add, ← g.length_positionWords]
    exact holdsWords_of_split split .vertices
  · -- The indices lie behind the positions.
    rw [← List.append_assoc] at split
    have holds := holdsWords_of_split split .indices
    rw [List.length_append, length_flatMap_littleEndian32, g.length_positionWords] at holds
    rw [Nat.zero_add]
    exact holds

/-! ## What a viewer finds -/

open Glb (Asset)

/-- What a viewer has of a scene with these exported geometries. -/
def assetOf (s : Scene) (gs : List SceneGeometry) : Asset :=
  .ofGltf (ofScene s gs) (gs.flatMap (·.bytes))

/-- The first accessor of a geometry leads to its positions. -/
theorem column?_positions (s : Scene) (hk : gs[k]? = some g) :
    (assetOf s gs).column? .positions (.ofJson (.nat (2 * k))) = some g.positionWords := by
  obtain ⟨⟨v, viewed, holds⟩, -⟩ := holdsWords_views hk
  refine Asset.column?_positions (getElem?_accessors hk (i := 0) (by decide)) viewed holds ?_
  rw [g.length_positionWords, SceneGeometry.vertexCount]
  omega

end Gltf

end LayeredScene
