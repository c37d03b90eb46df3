import LayeredScene.Proofs.Glb.Container

/-! # What a viewer finds in a GLB file

A viewer that knows the glTF format and nothing of scenes goes from a node to its mesh, from the
mesh to its accessors and its material, and from an accessor by way of a buffer view to the words in
the buffer.  `Glb.drawings?` does so for every node that has a mesh, in the order of the nodes.  The
lemmas say what it finds on the way in a document that was written from a `Gltf`.
-/

namespace LayeredScene

/-! ## Looking into a tree -/

namespace Draft

def member? (key : String) : Draft → Option Draft
  | .object members .closed => (members.find? (·.1 == some key)).map (·.2)
  | _ => none

def items? : Draft → Option (List Draft)
  | .list items .closed => some items
  | _ => none

/-- The only item of a list. -/
def single? : Draft → Option Draft
  | .list [item] .closed => some item
  | _ => none

def nat? : Draft → Option Nat
  | .number n => if !n.negative && n.isWhole then some n.whole else none
  | _ => none

def string? : Draft → Option String
  | .text s => some s
  | _ => none

@[simp] theorem member?_ofJson (key : String) (members : List (String × Json)) :
    (ofJson (.object members)).member? key =
      (members.find? (·.1 == key)).map fun m => ofJson m.2 := by
  simp only [ofJson, ofMembers_eq_map, member?]
  induction members with
  | nil => rfl
  | cons m ms ih => by_cases same : m.1 = key <;> simp_all

@[simp] theorem items?_ofJson (items : List Json) :
    (ofJson (.list items)).items? = some (items.map ofJson) := by
  rw [ofJson, items?, ofItems_eq_map]

@[simp] theorem single?_ofJson (item : Json) :
    (ofJson (.list [item])).single? = some (ofJson item) := rfl

@[simp] theorem nat?_ofJson (n : Nat) : (ofJson (.nat n)).nat? = some n := rfl

@[simp] theorem string?_ofJson (s : String) : (ofJson (.text s)).string? = some s := rfl

end Draft

namespace Glb

/-! ## From a node to the buffer -/

/-- How the words of an accessor are to be taken. -/
structure Column where
  componentType : Nat
  kind : String
  components : Nat

/-- Positions: three singles each. -/
def Column.positions : Column := ⟨5126, "VEC3", 3⟩

/-- Indices: one word each. -/
def Column.indices : Column := ⟨5125, "SCALAR", 1⟩

namespace Asset

/-- The element of a list of the document that an index refers to. -/
def element? (a : Asset) (list : String) (index : Draft) : Option Draft := do
  let items ← (← a.document.member? list).items?
  items[← index.nat?]?

def viewed? (a : Asset) (view : Draft) : Option (List UInt8) := do
  let buffer ← (← view.member? "buffer").nat?
  let offset ← (← view.member? "byteOffset").nat?
  let length ← (← view.member? "byteLength").nat?
  if buffer = 0 ∧ offset + length ≤ a.buffer.length then
    return (a.buffer.drop offset).take length
  else none

/-- The words that an accessor gives, if it is of the right type and they are all there. -/
def column? (a : Asset) (column : Column) (index : Draft) : Option (List UInt32) := do
  let accessor ← a.element? "accessors" index
  let view ← a.element? "bufferViews" (← accessor.member? "bufferView")
  let skipped ← (← accessor.member? "byteOffset").nat?
  let words ← words? ((← a.viewed? view).drop skipped)
  let count ← (← accessor.member? "count").nat?
  let componentType ← (← accessor.member? "componentType").nat?
  let kind ← (← accessor.member? "type").string?
  if componentType = column.componentType ∧ kind = column.kind ∧
      count * column.components ≤ words.length then
    return words
  else none

def material? (a : Asset) (primitive : Draft) : Option (Option Draft) :=
  match primitive.member? "material" with
  | none => some none
  | some index => (a.element? "materials" index).map some

end Asset

end Glb

/-! ## Documents that were written -/

def GltfNode.isMesh : GltfNode → Bool
  | .mesh .. => true
  | _ => false

namespace Glb

/-- What a file with a document and a buffer holds. -/
def Asset.ofGltf (g : Gltf) (buffer : List UInt8) : Asset := ⟨.ofJson g.toJson, buffer⟩

/-- A buffer view and the buffer together hold some words. -/
structure HoldsWords (buffer : List UInt8) (v : BufferView) (words : List UInt32) : Prop where
  inside : v.offset + v.length ≤ buffer.length
  words : words? ((buffer.drop v.offset).take v.length) = some words

namespace Asset

variable {g : Gltf} {buffer : List UInt8}

/-- An index into a list of the document leads to the element at that place. -/
theorem element?_of_member {α : Type} {list : String} {xs : List α} {f : α → Json}
    (found : (ofGltf g buffer).document.member? list = some (.ofJson (.list (xs.map f))))
    (i : Nat) :
    (ofGltf g buffer).element? list (.ofJson (.nat i)) = xs[i]?.map fun x => .ofJson (f x) := by
  simp [element?, found, Function.comp_def]

theorem element?_accessors (i : Nat) :
    (ofGltf g buffer).element? "accessors" (.ofJson (.nat i)) =
      g.accessors[i]?.map fun x => .ofJson (Gltf.accessorJson x) :=
  element?_of_member (by simp [ofGltf, Gltf.toJson]) i

theorem element?_views (i : Nat) :
    (ofGltf g buffer).element? "bufferViews" (.ofJson (.nat i)) =
      g.views[i]?.map fun v => .ofJson (Gltf.viewJson v) :=
  element?_of_member (by simp [ofGltf, Gltf.toJson]) i

theorem viewed?_viewJson {v : BufferView} (inside : v.offset + v.length ≤ buffer.length) :
    (ofGltf g buffer).viewed? (.ofJson (Gltf.viewJson v)) =
      some ((buffer.drop v.offset).take v.length) := by
  simp [viewed?, Gltf.viewJson, ofGltf, inside]

/-- The words of an accessor are found by way of the members that the two kinds have in common. -/
theorem column?_of_members {column : Column} {index accessor : Draft} {view count : Nat}
    {v : BufferView} {words : List UInt32}
    (found : (ofGltf g buffer).element? "accessors" index = some accessor)
    (inView : accessor.member? "bufferView" = some (.ofJson (.nat view)))
    (start : accessor.member? "byteOffset" = some (.ofJson (.nat 0)))
    (counted : accessor.member? "count" = some (.ofJson (.nat count)))
    (componentType : accessor.member? "componentType" = some (.ofJson (.nat column.componentType)))
    (kind : accessor.member? "type" = some (.ofJson (.text column.kind)))
    (viewed : g.views[view]? = some v) (holds : HoldsWords buffer v words)
    (enough : count * column.components ≤ words.length) :
    (ofGltf g buffer).column? column index = some words := by
  have listed : (ofGltf g buffer).element? "bufferViews" (.ofJson (.nat view)) =
      some (.ofJson (Gltf.viewJson v)) := by
    rw [element?_views, viewed, Option.map_some]
  -- Step by step, as `simp` would first look into all the steps that are still to come.
  refine Option.bind_eq_some_iff.mpr ⟨accessor, found, ?_⟩
  refine Option.bind_eq_some_iff.mpr ⟨_, inView, ?_⟩
  refine Option.bind_eq_some_iff.mpr ⟨_, listed, ?_⟩
  refine Option.bind_eq_some_iff.mpr ⟨_, start, ?_⟩
  refine Option.bind_eq_some_iff.mpr ⟨0, Draft.nat?_ofJson 0, ?_⟩
  refine Option.bind_eq_some_iff.mpr ⟨_, viewed?_viewJson holds.inside, ?_⟩
  refine Option.bind_eq_some_iff.mpr ⟨words, holds.words, ?_⟩
  refine Option.bind_eq_some_iff.mpr ⟨_, counted, ?_⟩
  refine Option.bind_eq_some_iff.mpr ⟨count, Draft.nat?_ofJson count, ?_⟩
  refine Option.bind_eq_some_iff.mpr ⟨_, componentType, ?_⟩
  refine Option.bind_eq_some_iff.mpr ⟨_, Draft.nat?_ofJson _, ?_⟩
  refine Option.bind_eq_some_iff.mpr ⟨_, kind, ?_⟩
  refine Option.bind_eq_some_iff.mpr ⟨_, Draft.string?_ofJson _, ?_⟩
  exact if_pos ⟨rfl, rfl, enough⟩

theorem column?_positions {i view count : Nat} {low high : Triple Float32} {v : BufferView}
    {words : List UInt32} (accessor : g.accessors[i]? = some (.positions view count low high))
    (viewed : g.views[view]? = some v) (holds : HoldsWords buffer v words)
    (enough : count * 3 ≤ words.length) :
    (ofGltf g buffer).column? .positions (.ofJson (.nat i)) = some words := by
  have found : (ofGltf g buffer).element? "accessors" (.ofJson (.nat i)) = _ :=
    element?_accessors i
  rw [accessor, Option.map_some] at found
  refine column?_of_members found ?_ ?_ ?_ ?_ ?_ viewed holds enough <;>
    simp [Gltf.accessorJson, Column.positions]

end Asset

end Glb

end LayeredScene
