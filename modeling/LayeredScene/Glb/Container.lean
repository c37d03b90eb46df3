import LayeredScene.Glb.OfScene

/-! # GLB files

A GLB file is a header, a chunk with the JSON text of a glTF document, and a chunk with its buffer.
The text is filled up with spaces to whole words.  A scene without anything to draw gives no file at
all, that is, one without bytes. -/

namespace LayeredScene.Glb

/-- A chunk: its length, its type and its bytes. -/
def chunk (kind : UInt32) (bytes : List UInt8) : List UInt8 :=
  littleEndian32 (UInt32.ofNat bytes.length) ++ littleEndian32 kind ++ bytes

def textChunk : UInt32 := 0x4E4F534A

def bufferChunk : UInt32 := 0x004E4942

/-- The bytes of a text, filled up with spaces to whole words. -/
def padded (bytes : List UInt8) : List UInt8 :=
  bytes ++ List.replicate ((4 - bytes.length % 4) % 4) 0x20

def pack (text buffer : List UInt8) : List UInt8 :=
  let text := padded text
  littleEndian32 0x46546C67 ++ littleEndian32 2 ++
    littleEndian32 (UInt32.ofNat (12 + 8 + text.length + 8 + buffer.length)) ++
    chunk textChunk text ++ chunk bufferChunk buffer

def ofScene (s : Scene) : List UInt8 :=
  let exported := s.geometries.filter (·.isExported)
  if exported.isEmpty then []
  else pack (utf8 (Gltf.ofScene s exported).toJson.compact) (exported.flatMap (·.bytes))

end LayeredScene.Glb
