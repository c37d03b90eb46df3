import LayeredScene.Proofs.Glb.Contents
import LayeredScene.Proofs.Glb.Drawings

/-! # The layout of GLB files

A file that is not empty consists of its header and two chunks, with lengths that are whole words
and right to the byte.  Its buffer views divide the buffer among them without a gap, and each of the
accessors, which take turns with positions and indices, finds all that it counts in the view of the
same number.

The offsets are computed from the numbers of coordinates and of indices, and the buffer is put
together from the bytes; `adjoin_viewsFrom` is the induction that shows them to agree.
-/

namespace LayeredScene

namespace Glb

/-! ## Chunks -/

/-- A file is a header with its length, a chunk with a JSON text that is filled up with spaces, and
    a chunk with a buffer.  Both chunks are whole words long. -/
structure Chunked (file : List UInt8) (json : Json) (spaces : Nat) (buffer : List UInt8)
    (total textLength bufferLength : UInt32) : Prop where
  bytes : file =
    utf8 "glTF" ++ littleEndian32 2 ++ littleEndian32 total ++
    (littleEndian32 textLength ++ utf8 "JSON" ++
      (utf8 json.compact ++ List.replicate spaces 0x20)) ++
    (littleEndian32 bufferLength ++ utf8 "BIN\x00" ++ buffer)
  /-- The text can be read, spaces included, and says what was written. -/
  reads : value? (utf8 json.compact ++ List.replicate spaces 0x20) = some (.ofJson json)
  spaces_le : spaces ≤ 3
  total_eq : total.toNat = file.length
  textLength_eq : textLength.toNat = (utf8 json.compact).length + spaces
  bufferLength_eq : bufferLength.toNat = buffer.length
  textAligned : 4 ∣ textLength.toNat
  bufferAligned : 4 ∣ bufferLength.toNat

/-- How many spaces bytes are filled up with. -/
def padding (bytes : List UInt8) : Nat :=
  (4 - bytes.length % 4) % 4

theorem padded_eq (bytes : List UInt8) :
    padded bytes = bytes ++ List.replicate (padding bytes) 0x20 := rfl

theorem length_padded (bytes : List UInt8) :
    (padded bytes).length = bytes.length + padding bytes := by
  rw [padded_eq, List.length_append, List.length_replicate]

theorem four_dvd_length_padded (bytes : List UInt8) : 4 ∣ (padded bytes).length := by
  rw [length_padded, padding]
  omega

theorem chunked_pack {json : Json} (shallow : json.nesting < depthLimit) {buffer : List UInt8}
    (whole : 4 ∣ buffer.length) (small : (pack (utf8 json.compact) buffer).length < 2 ^ 32) :
    ∃ spaces total textLength bufferLength, Chunked (pack (utf8 json.compact) buffer) json spaces
      buffer total textLength bufferLength := by
  have length := length_pack (utf8 json.compact) buffer
  have word : UInt32.size = 2 ^ 32 := rfl
  have total := UInt32.toNat_ofNat_of_lt' small
  have text : (UInt32.ofNat (padded (utf8 json.compact)).length).toNat = _ :=
    UInt32.toNat_ofNat_of_lt' (by omega)
  have inBuffer : (UInt32.ofNat buffer.length).toNat = _ := UInt32.toNat_ofNat_of_lt' (by omega)
  -- The three marks are words that spell their names.
  have magic : utf8 "glTF" = littleEndian32 0x46546C67 := by decide
  have textMark : utf8 "JSON" = littleEndian32 textChunk := by decide
  have bufferMark : utf8 "BIN\x00" = littleEndian32 bufferChunk := by decide
  refine ⟨padding (utf8 json.compact), UInt32.ofNat (pack (utf8 json.compact) buffer).length,
    UInt32.ofNat (padded (utf8 json.compact)).length, UInt32.ofNat buffer.length, ?_⟩
  exact
    { bytes := by
        rw [magic, textMark, bufferMark, length]
        rfl
      reads := value?_padded shallow
      spaces_le := by
        rw [padding]
        omega
      total_eq := total
      textLength_eq := text.trans (length_padded _)
      bufferLength_eq := inBuffer
      textAligned := by
        rw [text]
        exact four_dvd_length_padded _
      bufferAligned := by rwa [inBuffer] }

/-! ## Views and accessors -/

/-- Views lie one behind the other, from the one place in the buffer to the other. -/
def Adjoin : Nat → List ViewEntry → Nat → Prop
  | start, [], stop => start = stop
  | start, v :: vs, stop => v.offset = start ∧ Adjoin (v.offset + v.length) vs stop

/-- The views of a document divide a buffer of some size among them, in whole words, and its
    accessors find in them what they count: positions are three words each, and indices one. -/
structure LaidOut (c : Contents) (size count : Nat) : Prop where
  bufferLength : c.bufferLength = size
  adjoin : Adjoin 0 c.views size
  aligned : ∀ v ∈ c.views, v.buffer = 0 ∧ 4 ∣ v.offset ∧ 4 ∣ v.length
  views : c.views.length = 2 * count
  accessors : c.accessors.length = 2 * count
  positions : ∀ k < count, ∃ a v, c.accessors[2 * k]? = some a ∧ c.views[2 * k]? = some v ∧
    a.view = 2 * k ∧ a.componentType = 5126 ∧ a.kind = "VEC3" ∧ a.count * 12 ≤ v.length
  indices : ∀ k < count, ∃ a v, c.accessors[2 * k + 1]? = some a ∧ c.views[2 * k + 1]? = some v ∧
    a.view = 2 * k + 1 ∧ a.componentType = 5125 ∧ a.kind = "SCALAR" ∧ a.count * 4 = v.length

/-- Every accessor belongs to the view of the same number. -/
theorem LaidOut.view_eq {c : Contents} {size count p : Nat} {a : AccessorEntry}
    (laidOut : LaidOut c size count) (ha : c.accessors[p]? = some a) : a.view = p := by
  have inside : p < c.accessors.length := lt_length_of_getElem? ha
  rw [laidOut.accessors] at inside
  -- The accessor is the first or the second one of its geometry.
  rcases Nat.mod_two_eq_zero_or_one p with even | odd
  · obtain ⟨a', v, ha', -, view, -⟩ := laidOut.positions (p / 2) (by omega)
    rw [show 2 * (p / 2) = p by omega] at ha' view
    rw [ha] at ha'
    cases ha'
    exact view
  · obtain ⟨a', v, ha', -, view, -⟩ := laidOut.indices (p / 2) (by omega)
    rw [show 2 * (p / 2) + 1 = p by omega] at ha' view
    rw [ha] at ha'
    cases ha'
    exact view

end Glb

namespace Gltf

open Glb (Adjoin AccessorEntry Contents LaidOut ViewEntry)

variable {gs : List SceneGeometry}

theorem adjoin_viewsFrom (offset : Nat) (gs : List SceneGeometry) :
    Adjoin offset ((viewsFrom offset gs).map .ofView)
      (offset + (gs.flatMap (·.bytes)).length) := by
  induction gs generalizing offset with
  | nil => rfl
  | cons g gs ih =>
    -- The views of the first geometry lead from its first byte to the first byte behind it.
    rw [viewsFrom_cons, List.flatMap_cons, List.length_append, ← Nat.add_assoc]
    have later := ih (offset + g.bytes.length)
    rw [g.length_bytes, ← Nat.add_assoc] at later ⊢
    exact ⟨rfl, rfl, later⟩

theorem four_dvd_of_mem_viewsFrom {offset : Nat} (whole : 4 ∣ offset) {v : BufferView}
    (hv : v ∈ viewsFrom offset gs) : 4 ∣ v.offset ∧ 4 ∣ v.length := by
  induction gs generalizing offset with
  | nil => cases hv
  | cons g gs ih =>
    have length := g.length_bytes
    rw [viewsFrom_cons, List.mem_append] at hv
    rcases hv with own | later
    · simp only [viewsOf, List.mem_cons, List.not_mem_nil, or_false] at own
      rcases own with rfl | rfl <;> constructor <;> simp only <;> omega
    · exact ih (by omega) later

theorem length_viewsFrom (offset : Nat) (gs : List SceneGeometry) :
    (viewsFrom offset gs).length = 2 * gs.length := by
  induction gs generalizing offset with
  | nil => rfl
  | cons g gs ih =>
    rw [viewsFrom_cons, List.length_append, ih, List.length_cons, Nat.mul_succ, Nat.add_comm]
    rfl

theorem length_accessors (gs : List SceneGeometry) :
    (gs.zipIdx.flatMap fun (g, k) => accessorsOf g k).length = 2 * gs.length := by
  have pairs : ∀ x ∈ gs.zipIdx, (accessorsOf x.1 x.2).length = 2 := fun _ _ => rfl
  have all := joinedBefore_of_length pairs (Nat.le_refl _)
  rwa [joinedBefore, List.take_length, List.length_zipIdx] at all

theorem four_dvd_length_buffer (gs : List SceneGeometry) : 4 ∣ (gs.flatMap (·.bytes)).length := by
  induction gs with
  | nil => exact Nat.dvd_zero 4
  | cons g gs ih =>
    have length := g.length_bytes
    rw [List.flatMap_cons, List.length_append]
    omega

theorem laidOut_ofScene (s : Scene) (gs : List SceneGeometry) :
    LaidOut (.ofGltf (ofScene s gs)) (gs.flatMap (·.bytes)).length gs.length where
  bufferLength := rfl
  adjoin := by
    have all := adjoin_viewsFrom 0 gs
    rwa [Nat.zero_add] at all
  aligned v hv := by
    obtain ⟨view, listed, rfl⟩ := List.mem_map.mp hv
    exact ⟨rfl, four_dvd_of_mem_viewsFrom (Nat.dvd_zero 4) listed⟩
  views := by
    rw [Contents.ofGltf, List.length_map]
    exact length_viewsFrom 0 gs
  accessors := by
    rw [Contents.ofGltf, List.length_map]
    exact length_accessors gs
  positions k hk := by
    have hg := List.getElem?_eq_getElem hk
    have view := getElem?_viewsFrom 0 hg (i := 0) (by decide)
    have accessor := getElem?_accessors hg (i := 0) (by decide)
    -- Coordinates that make up no vertex are not counted.
    have fits : gs[k].vertexCount * 12 ≤ 4 * gs[k].positions.values.length := by
      rw [SceneGeometry.vertexCount]
      omega
    refine ⟨⟨2 * k, 5126, "VEC3", gs[k].vertexCount⟩,
      ⟨0, 0 + startOf gs k, 4 * gs[k].positions.values.length⟩, ?_, ?_, rfl, rfl, rfl, fits⟩
    · rw [Contents.ofGltf, List.getElem?_map]
      exact congrArg (Option.map _) accessor
    · rw [Contents.ofGltf, List.getElem?_map]
      exact congrArg (Option.map _) view
  indices k hk := by
    have hg := List.getElem?_eq_getElem hk
    have view := getElem?_viewsFrom 0 hg (i := 1) (by decide)
    have accessor := getElem?_accessors hg (i := 1) (by decide)
    refine ⟨⟨2 * k + 1, 5125, "SCALAR", gs[k].indices.values.length⟩,
      ⟨0, 0 + startOf gs k + 4 * gs[k].positions.values.length, 4 * gs[k].indices.values.length⟩,
      ?_, ?_, rfl, rfl, rfl, ?_⟩
    · rw [Contents.ofGltf, List.getElem?_map]
      exact congrArg (Option.map _) accessor
    · rw [Contents.ofGltf, List.getElem?_map]
      exact congrArg (Option.map _) view
    · exact Nat.mul_comm _ 4

end Gltf

/-! ## Files of scenes -/

namespace Glb

/-- There is no file exactly if no geometry has a complete vertex and an index.  Any other file that
    is not too long for its header is chunked, and its JSON text lays out its buffer for as many
    geometries as have both. -/
theorem layout_ofScene (s : Scene) :
    (ofScene s = [] ↔
      ∀ g ∈ s.geometries, ¬ (3 ≤ g.positions.values.length ∧ g.indices.values ≠ [])) ∧
    (ofScene s ≠ [] → (ofScene s).length < 2 ^ 32 →
      ∃ json spaces buffer total textLength bufferLength c,
        Chunked (ofScene s) json spaces buffer total textLength bufferLength ∧
        Contents.read? (.ofJson json) = some c ∧
        LaidOut c buffer.length (exportedOf s).length) := by
  constructor
  · simp only [ofScene_eq_nil_iff, exportedOf, List.filter_eq_nil_iff, SceneGeometry.isExported_iff]
  · intro nonempty small
    have file := ofScene_eq_pack nonempty
    rw [file] at small
    obtain ⟨spaces, total, textLength, bufferLength, chunked⟩ :=
      chunked_pack (Gltf.nesting_toJson_lt _) (Gltf.four_dvd_length_buffer _) small
    rw [← file] at chunked
    exact ⟨_, spaces, _, total, textLength, bufferLength, _, chunked, Contents.read?_ofJson _,
      Gltf.laidOut_ofScene s (exportedOf s)⟩

/-- Of the four geometries of the shelf two are in its file, so that there are four views. -/
theorem layout_ofScene_shelf :
    ofScene shelf ≠ [] ∧ (ofScene shelf).length < 2 ^ 32 ∧
      ∃ json spaces buffer total textLength bufferLength c,
        Chunked (ofScene shelf) json spaces buffer total textLength bufferLength ∧
        Contents.read? (.ofJson json) = some c ∧ LaidOut c buffer.length 2 ∧
        c.views.length = 4 := by
  obtain ⟨json, spaces, buffer, total, textLength, bufferLength, c, chunked, read, laidOut⟩ :=
    (layout_ofScene shelf).2 ofScene_shelf_ne_nil length_ofScene_shelf_lt
  have exported : (exportedOf shelf).length = 2 := by decide
  rw [exported] at laidOut
  exact ⟨ofScene_shelf_ne_nil, length_ofScene_shelf_lt, json, spaces, buffer, total, textLength,
    bufferLength, c, chunked, read, laidOut, laidOut.views⟩

end Glb

end LayeredScene
