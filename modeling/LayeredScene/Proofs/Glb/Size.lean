import LayeredScene.Proofs.Glb.Container
import LayeredScene.Proofs.Json.Size

/-! # How large a GLB file is

The size of a file depends on the rotations of its nodes, which are computed with sines and cosines
of which nothing is known but that they are singles.  As every single is written with a bounded
number of characters, the file is hardly larger than it would be without any rotation:
`length_ofScene_lt` bounds it by a number that can be computed.
-/

namespace LayeredScene

/-- The node with its rotation left out. -/
def GltfNode.unturned : GltfNode → GltfNode
  | .mesh name k translation _ => .mesh name k translation ⟨0, 0, 0, 1⟩
  | other => other

namespace Gltf

open Json (size sizeItems sizeMembers)
open Numeral (charLimit)

def unturned (g : Gltf) : Gltf :=
  { g with nodes := g.nodes.map GltfNode.unturned }

theorem size_real_le (x : Float32) : (real x).size ≤ charLimit :=
  Json.size_double_le (widen x)

theorem size_nodeJson_le (n : GltfNode) :
    (nodeJson n).size ≤ (nodeJson n.unturned).size + 4 * charLimit := by
  cases n with
  | root | layer => exact Nat.le_add_right _ _
  | mesh name mesh translation rotation =>
    have x := size_real_le rotation.x
    have y := size_real_le rotation.y
    have z := size_real_le rotation.z
    have w := size_real_le rotation.w
    simp only [nodeJson, GltfNode.unturned, reals, Quaternion.toList, List.map_cons, List.map_nil,
      size, sizeItems, sizeMembers]
    omega

theorem sizeItems_nodes_le (nodes : List GltfNode) :
    sizeItems (nodes.map nodeJson) ≤
      sizeItems ((nodes.map GltfNode.unturned).map nodeJson) + 4 * charLimit * nodes.length := by
  induction nodes with
  | nil => simp
  | cons n ns ih =>
    have node := size_nodeJson_le n
    simp only [List.map_cons, sizeItems, List.length_cons, Nat.mul_succ] at ih ⊢
    omega

/-- Rotations make a document longer by no more than this. -/
theorem size_toJson_le (g : Gltf) :
    g.toJson.size ≤ g.unturned.toJson.size + 4 * charLimit * g.nodes.length := by
  have nodes := sizeItems_nodes_le g.nodes
  simp only [toJson, unturned, size, sizeMembers] at nodes ⊢
  omega

end Gltf

namespace Glb

/-- A file is small enough if it is so without its rotations, with room left for them. -/
theorem length_ofScene_lt {s : Scene} {bound : Nat}
    (h : 31 + 4 * ((Gltf.ofScene s (exportedOf s)).unturned.toJson.size +
        4 * Numeral.charLimit * (Gltf.ofScene s (exportedOf s)).nodes.length) +
      ((exportedOf s).flatMap (·.bytes)).length < bound) :
    (ofScene s).length < bound := by
  have text := Json.length_utf8_compact_le (Gltf.ofScene s (exportedOf s)).toJson
  have rotations := Gltf.size_toJson_le (Gltf.ofScene s (exportedOf s))
  have padding : ∀ bytes, (padded bytes).length ≤ bytes.length + 3 := by
    intro bytes
    rw [padded, List.length_append, List.length_replicate]
    omega
  rw [ofScene]
  split
  · exact Nat.lt_of_le_of_lt (Nat.zero_le _) h
  · have spaces := padding (utf8 (Gltf.ofScene s (exportedOf s)).toJson.compact)
    rw [length_pack]
    simp only [exportedOf] at *
    omega

end Glb

end LayeredScene
