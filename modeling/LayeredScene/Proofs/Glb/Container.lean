import LayeredScene.Glb.Container
import LayeredScene.Proofs.Bytes
import LayeredScene.Proofs.Json.Trees

/-! # A GLB file is taken apart again

`Glb.unpack?` is how a reader takes a file apart that it knows nothing about: it checks the marks
and the lengths, decodes the text and reads it as JSON.  Each part of a file is read as far as it
goes and hands on what follows it, so that the lemmas have the form "what is written, followed by
anything, is read, and that anything is left".  `unpack?_pack` puts them together for whole files,
and `unpack?_ofScene` applies it to those of scenes, whose documents are nested only so deeply that
the JSON reader takes them.
-/

namespace LayeredScene

namespace Glb

/-- What a GLB file holds: the tree of its JSON text, and its buffer. -/
structure Asset where
  document : Draft
  buffer : List UInt8

/-! ## Taking a file apart -/

def word? : List UInt8 → Option (UInt32 × List UInt8)
  | a :: b :: c :: d :: rest => some (wordOf [a, b, c, d], rest)
  | _ => none

/-- The bytes of the chunk of some type at the start of bytes, and what follows it. -/
def chunk? (kind : UInt32) (bytes : List UInt8) : Option (List UInt8 × List UInt8) := do
  let (length, bytes) ← word? bytes
  let (found, bytes) ← word? bytes
  if found = kind ∧ length.toNat ≤ bytes.length then
    return (bytes.take length.toNat, bytes.drop length.toNat)
  else none

/-- What follows the header of a file: it has to name the format, its second version, and the length
of the file. -/
def body? (file : List UInt8) : Option (List UInt8) := do
  let (magic, bytes) ← word? file
  let (version, bytes) ← word? bytes
  let (length, bytes) ← word? bytes
  if magic = 0x46546C67 ∧ version = 2 ∧ length.toNat = file.length then return bytes else none

def value? (bytes : List UInt8) : Option Draft := do
  let text ← text? bytes
  if (Document.read text).trailing then none else return (Document.read text).value

/-- What a file holds: a JSON text and a buffer, and nothing else. -/
def unpack? (file : List UInt8) : Option Asset := do
  let bytes ← body? file
  let (text, bytes) ← chunk? textChunk bytes
  let (buffer, bytes) ← chunk? bufferChunk bytes
  let document ← value? text
  if bytes.isEmpty then return { document, buffer } else none

/-! ## What is written is read -/

theorem word?_littleEndian32 (w : UInt32) (rest : List UInt8) :
    word? (littleEndian32 w ++ rest) = some (w, rest) := by
  have word := wordOf_littleEndian32 w
  simp only [littleEndian32, lowBytes, List.cons_append, List.nil_append] at word ⊢
  rw [word?, word]

theorem length_chunk (kind : UInt32) (bytes : List UInt8) :
    (chunk kind bytes).length = 8 + bytes.length := by
  simp [chunk]
  omega

theorem chunk?_chunk (kind : UInt32) {bytes : List UInt8} (small : bytes.length < 2 ^ 32)
    (rest : List UInt8) : chunk? kind (chunk kind bytes ++ rest) = some (bytes, rest) := by
  have length := UInt32.toNat_ofNat_of_lt' small
  simp [chunk?, chunk, List.append_assoc, word?_littleEndian32, length]

theorem length_pack (text buffer : List UInt8) :
    (pack text buffer).length = 12 + 8 + (padded text).length + 8 + buffer.length := by
  simp [pack, length_chunk]
  omega

theorem body?_pack {text buffer : List UInt8} (small : (pack text buffer).length < 2 ^ 32) :
    body? (pack text buffer) =
      some (chunk textChunk (padded text) ++ chunk bufferChunk buffer) := by
  -- The length in the header is that of the whole file.
  have shape : pack text buffer = littleEndian32 0x46546C67 ++ (littleEndian32 2 ++
      (littleEndian32 (UInt32.ofNat (pack text buffer).length) ++
        (chunk textChunk (padded text) ++ chunk bufferChunk buffer))) := by
    rw [length_pack]
    simp only [pack, List.append_assoc]
  have magic := (congrArg word? shape).trans (word?_littleEndian32 ..)
  have length := UInt32.toNat_ofNat_of_lt' small
  simp [body?, magic, word?_littleEndian32, length]

theorem value?_padded {j : Json} (shallow : j.nesting < depthLimit) :
    value? (padded (utf8 j.compact)) = some (.ofJson j) := by
  -- How many spaces there are does not matter.
  obtain ⟨count, text⟩ : ∃ count, padded (utf8 j.compact) =
      utf8 (j.compact ++ String.ofList (List.replicate count ' ')) :=
    ⟨_, by rw [utf8_append, utf8_spaces, padded]⟩
  have read : Document.read (j.compact ++ String.ofList (List.replicate count ' ')) =
      ⟨.ofJson j, false⟩ := Document.read_render .compact j shallow count
  rw [value?, text, text?_utf8]
  simp [read]

theorem unpack?_pack {j : Json} (shallow : j.nesting < depthLimit) {buffer : List UInt8}
    (small : (pack (utf8 j.compact) buffer).length < 2 ^ 32) :
    unpack? (pack (utf8 j.compact) buffer) = some ⟨.ofJson j, buffer⟩ := by
  have length := length_pack (utf8 j.compact) buffer
  have textFits : (padded (utf8 j.compact)).length < 2 ^ 32 := by omega
  have bufferFits : buffer.length < 2 ^ 32 := by omega
  have text := chunk?_chunk textChunk textFits (chunk bufferChunk buffer)
  have rest := chunk?_chunk bufferChunk bufferFits []
  rw [List.append_nil] at rest
  simp [unpack?, body?_pack small, text, rest, value?_padded shallow]

end Glb

/-! ## The nesting of glTF documents -/

namespace Gltf

open Json (nesting_map_le)

theorem nesting_reals (xs : List Float32) : (reals xs).nesting ≤ 1 :=
  nesting_map_le (fun x => by simp [real]) xs

theorem nesting_nats (ns : List Nat) : (nats ns).nesting ≤ 1 :=
  nesting_map_le (fun n => by simp) ns

theorem nesting_viewJson (v : BufferView) : (viewJson v).nesting ≤ 1 := by
  simp only [viewJson, Json.nesting, Json.nestingMembers, Json.nesting_nat]
  omega

theorem nesting_accessorJson (a : Accessor) : (accessorJson a).nesting ≤ 2 := by
  cases a with
  | positions view count low high =>
    have bounds := And.intro (nesting_reals low.toList) (nesting_reals high.toList)
    simp only [accessorJson, Json.nesting, Json.nestingMembers, Json.nesting_nat]
    omega
  | indices view count =>
    simp only [accessorJson, Json.nesting, Json.nestingMembers, Json.nesting_nat]
    omega

theorem nesting_meshJson (m : GltfMesh) : (meshJson m).nesting ≤ 4 := by
  cases h : m.material <;>
    simp [meshJson, Json.nesting, Json.nestingMembers, Json.nestingItems, h]

theorem nesting_materialJson (m : GltfMaterial) : (materialJson m).nesting ≤ 3 := by
  have color := nesting_reals (m.color.toList ++ [m.opacity])
  simp only [materialJson, real, Json.nesting, Json.nestingMembers, Json.nesting_double]
  omega

theorem nesting_nodeJson (n : GltfNode) : (nodeJson n).nesting ≤ 2 := by
  cases n with
  | root name children objectType anatomical =>
    have inside := nesting_nats children
    simp only [nodeJson, Json.nesting, Json.nestingMembers]
    omega
  | layer name children layer toggleable =>
    have inside := nesting_nats children
    simp only [nodeJson, Json.nesting, Json.nestingMembers]
    omega
  | mesh name mesh translation rotation =>
    have placed := And.intro (nesting_reals translation.toList) (nesting_reals rotation.toList)
    simp only [nodeJson, Json.nesting, Json.nestingMembers, Json.nesting_nat]
    omega

/-- A document is never too deep to be read, however long its lists are. -/
theorem nesting_toJson_lt (g : Gltf) : g.toJson.nesting < depthLimit := by
  have accessors := nesting_map_le nesting_accessorJson g.accessors
  have views := nesting_map_le nesting_viewJson g.views
  have materials := nesting_map_le nesting_materialJson g.materials
  have meshes := nesting_map_le nesting_meshJson g.meshes
  have nodes := nesting_map_le nesting_nodeJson g.nodes
  have roots := nesting_nats [0]
  have shallow : g.toJson.nesting ≤ 6 := by
    simp only [toJson, Json.nesting, Json.nestingMembers, Json.nestingItems, Json.nesting_nat] at *
    omega
  exact Nat.lt_of_le_of_lt shallow (by decide)

end Gltf

/-! ## The files of scenes -/

namespace Glb

def exportedOf (s : Scene) : List SceneGeometry :=
  s.geometries.filter (·.isExported)

theorem ofScene_eq_nil_iff (s : Scene) : ofScene s = [] ↔ exportedOf s = [] := by
  rw [ofScene, exportedOf, ← List.isEmpty_iff (l := s.geometries.filter _)]
  split
  · next none => simp [none]
  · next some =>
    refine iff_of_false (fun empty => ?_) some
    -- A file that is written has a header at least.
    have length := length_pack
      (utf8 (Gltf.ofScene s (s.geometries.filter (·.isExported))).toJson.compact)
      ((s.geometries.filter (·.isExported)).flatMap (·.bytes))
    rw [empty, List.length_nil] at length
    omega

theorem ofScene_eq_pack {s : Scene} (nonempty : ofScene s ≠ []) :
    ofScene s = pack (utf8 (Gltf.ofScene s (exportedOf s)).toJson.compact)
      ((exportedOf s).flatMap (·.bytes)) := by
  rw [ofScene] at nonempty ⊢
  split at nonempty
  · exact absurd rfl nonempty
  · next some => rw [if_neg some, exportedOf]

/-- A file that is not empty holds the document of the scene and the bytes of its geometries. -/
theorem unpack?_ofScene {s : Scene} (nonempty : ofScene s ≠ [])
    (small : (ofScene s).length < 2 ^ 32) :
    unpack? (ofScene s) =
      some ⟨.ofJson (Gltf.ofScene s (exportedOf s)).toJson,
        (exportedOf s).flatMap (·.bytes)⟩ := by
  rw [ofScene_eq_pack nonempty] at small ⊢
  exact unpack?_pack (Gltf.nesting_toJson_lt _) small

end Glb

end LayeredScene
