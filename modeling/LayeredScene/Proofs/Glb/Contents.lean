import LayeredScene.Proofs.Glb.Viewer
import LayeredScene.Proofs.Traversal

/-! # What the document of a GLB file lists

The lists of a glTF document as plain records, with all the references between them as numbers.
`Contents.read?` takes them from the tree of a JSON text and looks at nothing but its members, so
that what is shown of the contents of a file is shown of its bytes; `Contents.read?_ofJson` says
what it finds in a document that was written from a `Gltf`.
-/

namespace LayeredScene

namespace Glb

/-- A buffer view: a part of a buffer, in bytes. -/
structure ViewEntry where
  buffer : Nat
  offset : Nat
  length : Nat
deriving DecidableEq

structure AccessorEntry where
  view : Nat
  componentType : Nat
  kind : String
  count : Nat
deriving DecidableEq

/-- A mesh with a single primitive, by the numbers of its accessors and of its material. -/
structure MeshEntry where
  name : String
  positions : Nat
  indices : Nat
  material : Option Nat
deriving DecidableEq

/-- A node, by the numbers of its mesh and of its children. -/
structure NodeEntry where
  name : String
  mesh : Option Nat
  children : List Nat
deriving DecidableEq

/-- What a document lists. -/
structure Contents where
  bufferLength : Nat
  views : List ViewEntry
  accessors : List AccessorEntry
  meshes : List MeshEntry
  /-- The number of materials. -/
  materials : Nat
  nodes : List NodeEntry
deriving DecidableEq

end Glb

/-! ## Reading -/

namespace Draft

/-- The member of a key, if there is one, in the way that it is to be read. -/
def optional? {α : Type} (read? : Draft → Option α) (key : String) (d : Draft) :
    Option (Option α) :=
  match d.member? key with
  | none => some none
  | some x => (read? x).map some

def nats? (d : Draft) : Option (List Nat) := do
  (← d.items?).mapM nat?

/-- The items of a member, each in the way that it is to be read. -/
def listed? {α : Type} (read? : Draft → Option α) (key : String) (d : Draft) :
    Option (List α) := do
  (← (← d.member? key).items?).mapM read?

end Draft

namespace Glb

def ViewEntry.read? (d : Draft) : Option ViewEntry := do
  return {
    buffer := ← (← d.member? "buffer").nat?
    offset := ← (← d.member? "byteOffset").nat?
    length := ← (← d.member? "byteLength").nat? }

def AccessorEntry.read? (d : Draft) : Option AccessorEntry := do
  return {
    view := ← (← d.member? "bufferView").nat?
    componentType := ← (← d.member? "componentType").nat?
    kind := ← (← d.member? "type").string?
    count := ← (← d.member? "count").nat? }

def MeshEntry.read? (d : Draft) : Option MeshEntry := do
  let primitive ← (← d.member? "primitives").single?
  return {
    name := ← (← d.member? "name").string?
    positions := ← (← (← primitive.member? "attributes").member? "POSITION").nat?
    indices := ← (← primitive.member? "indices").nat?
    material := ← primitive.optional? Draft.nat? "material" }

/-- A node without children has no list of them. -/
def NodeEntry.read? (d : Draft) : Option NodeEntry := do
  return {
    name := ← (← d.member? "name").string?
    mesh := ← d.optional? Draft.nat? "mesh"
    children := (← d.optional? Draft.nats? "children").getD [] }

def Contents.read? (d : Draft) : Option Contents := do
  let buffer ← (← d.member? "buffers").single?
  return {
    bufferLength := ← (← buffer.member? "byteLength").nat?
    views := ← d.listed? ViewEntry.read? "bufferViews"
    accessors := ← d.listed? AccessorEntry.read? "accessors"
    meshes := ← d.listed? MeshEntry.read? "meshes"
    materials := (← (← d.member? "materials").items?).length
    nodes := ← d.listed? NodeEntry.read? "nodes" }

/-! ## Documents that were written -/

def ViewEntry.ofView (v : BufferView) : ViewEntry := ⟨0, v.offset, v.length⟩

def AccessorEntry.ofAccessor : Accessor → AccessorEntry
  | .positions view count _ _ =>
    ⟨view, Column.positions.componentType, Column.positions.kind, count⟩
  | .indices view count => ⟨view, Column.indices.componentType, Column.indices.kind, count⟩

def MeshEntry.ofMesh (m : GltfMesh) : MeshEntry := ⟨m.name, m.positions, m.indices, m.material⟩

def NodeEntry.ofNode : GltfNode → NodeEntry
  | .root name children _ _ => ⟨name, none, children⟩
  | .layer name children _ _ => ⟨name, none, children⟩
  | .mesh name mesh _ _ => ⟨name, some mesh, []⟩

def Contents.ofGltf (g : Gltf) : Contents :=
  { bufferLength := g.bufferLength
    views := g.views.map .ofView
    accessors := g.accessors.map .ofAccessor
    meshes := g.meshes.map .ofMesh
    materials := g.materials.length
    nodes := g.nodes.map .ofNode }

end Glb

namespace Draft

@[simp] theorem nats?_ofJson (ns : List Nat) : (ofJson (Gltf.nats ns)).nats? = some ns := by
  have each : (ns.map fun n => ofJson (.nat n)).mapM nat? = some ns := by
    rw [List.mapM_map]
    simpa using mapM_eq_some_map (f := nat? ∘ fun n => ofJson (.nat n)) (g := id) fun n _ => rfl
  rw [nats?, Gltf.nats, items?_ofJson, List.map_map]
  exact each

/-- Items that were written one by one are read one by one. -/
theorem listed?_of_member {α β : Type} {read? : Draft → Option β} {write : α → Json} {f : α → β}
    (readsBack : ∀ x, read? (ofJson (write x)) = some (f x)) {key : String} {d : Draft}
    {xs : List α} (found : d.member? key = some (.ofJson (.list (xs.map write)))) :
    d.listed? read? key = some (xs.map f) := by
  have each : ((xs.map write).map ofJson).mapM read? = some (xs.map f) := by
    rw [List.map_map, List.mapM_map]
    exact mapM_eq_some_map fun x _ => readsBack x
  simp only [listed?, found, Option.bind_eq_bind, Option.bind_some, items?_ofJson, each]

end Draft

namespace Glb

theorem ViewEntry.read?_viewJson (v : BufferView) :
    read? (.ofJson (Gltf.viewJson v)) = some (.ofView v) := by
  simp [read?, Gltf.viewJson, ofView]

theorem AccessorEntry.read?_accessorJson (a : Accessor) :
    read? (.ofJson (Gltf.accessorJson a)) = some (.ofAccessor a) := by
  cases a with
  | positions view count low high =>
    simp [read?, Gltf.accessorJson, ofAccessor, Column.positions]
  | indices view count => simp [read?, Gltf.accessorJson, ofAccessor, Column.indices]

theorem MeshEntry.read?_meshJson (m : GltfMesh) :
    read? (.ofJson (Gltf.meshJson m)) = some (.ofMesh m) := by
  cases named : m.material <;>
    simp [read?, Gltf.meshJson, ofMesh, Draft.optional?, named]

theorem NodeEntry.read?_nodeJson (n : GltfNode) :
    read? (.ofJson (Gltf.nodeJson n)) = some (.ofNode n) := by
  cases n with
  | root name children objectType anatomical =>
    simp [read?, Gltf.nodeJson, ofNode, Draft.optional?]
  | layer name children layer toggleable =>
    simp [read?, Gltf.nodeJson, ofNode, Draft.optional?]
  | mesh name mesh translation rotation =>
    simp [read?, Gltf.nodeJson, ofNode, Draft.optional?]

theorem Contents.read?_ofJson (g : Gltf) : read? (.ofJson g.toJson) = some (.ofGltf g) := by
  have views : (Draft.ofJson g.toJson).listed? ViewEntry.read? "bufferViews" =
      some (g.views.map .ofView) :=
    Draft.listed?_of_member ViewEntry.read?_viewJson (by simp [Gltf.toJson])
  have accessors : (Draft.ofJson g.toJson).listed? AccessorEntry.read? "accessors" =
      some (g.accessors.map .ofAccessor) :=
    Draft.listed?_of_member AccessorEntry.read?_accessorJson (by simp [Gltf.toJson])
  have meshes : (Draft.ofJson g.toJson).listed? MeshEntry.read? "meshes" =
      some (g.meshes.map .ofMesh) :=
    Draft.listed?_of_member MeshEntry.read?_meshJson (by simp [Gltf.toJson])
  have nodes : (Draft.ofJson g.toJson).listed? NodeEntry.read? "nodes" =
      some (g.nodes.map .ofNode) :=
    Draft.listed?_of_member NodeEntry.read?_nodeJson (by simp [Gltf.toJson])
  have buffers : (Draft.ofJson g.toJson).member? "buffers" =
      some (.ofJson (.list [.object [("byteLength", .nat g.bufferLength)]])) := by
    simp [Gltf.toJson]
  have materials : (Draft.ofJson g.toJson).member? "materials" =
      some (.ofJson (.list (g.materials.map Gltf.materialJson))) := by simp [Gltf.toJson]
  simp [read?, views, accessors, meshes, nodes, buffers, materials, ofGltf]

end Glb

end LayeredScene
