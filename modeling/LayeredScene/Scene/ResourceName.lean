import LayeredScene.Digest.Sha1
import LayeredScene.Json.Basic

/-! # Names of resources

A resource is named by the number of its object in the source, the type of the object, what kind of
resource it is, and its number among those.  Its identifier is the version 5 UUID of that name. -/

namespace LayeredScene

structure ResourceName where
  objectType : String
  block : Nat
  kind : String
  ordinal : Nat
deriving DecidableEq

/-- The namespace of the names: that of object identifiers. -/
def nameSpaceBytes : List UInt8 :=
  [0x6B, 0xA7, 0xB8, 0x12, 0x9D, 0xAD, 0x11, 0xD1, 0x80, 0xB4, 0x00, 0xC0, 0x4F, 0xD4, 0x30, 0xC8]

def hexText (bytes : List UInt8) : String :=
  String.ofList <| bytes.flatMap fun b =>
    [Json.hexDigit (b.toNat / 16), Json.hexDigit (b.toNat % 16)]

/-- The bytes of a hash with the version and the variant of a UUID put in. -/
def markVersion (hash : List UInt8) : List UInt8 :=
  hash.zipIdx.map fun (b, k) =>
    if k = 6 then b &&& 0x0F ||| 0x50 else if k = 8 then b &&& 0x3F ||| 0x80 else b

/-- The version 5 UUID of a name. -/
def uuidOf (name : String) : String :=
  let bytes := markVersion ((sha1 (nameSpaceBytes ++ utf8 name)).take 16)
  let part (start count : Nat) : String := hexText ((bytes.drop start).take count)
  "-".intercalate [part 0 4, part 4 2, part 6 2, part 8 2, part 10 6]

namespace ResourceName

def text (n : ResourceName) : String :=
  "gene/" ++ toString n.block ++ "/" ++ n.objectType ++ "/" ++ n.kind ++ "/" ++ toString n.ordinal

def uuid (n : ResourceName) : String := uuidOf n.text

end ResourceName

end LayeredScene
