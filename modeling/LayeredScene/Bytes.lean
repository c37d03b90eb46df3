/-! # Bytes

Text and machine words as lists of bytes. -/

namespace LayeredScene

def utf8 (s : String) : List UInt8 :=
  s.toList.flatMap String.utf8EncodeChar

/-- The text that bytes encode, if they are valid UTF-8. -/
def text? (bytes : List UInt8) : Option String :=
  String.fromUTF8? ⟨bytes.toArray⟩

/-- The `count` low bytes of a number, the lowest first. -/
def lowBytes : Nat → Nat → List UInt8
  | 0, _ => []
  | count + 1, n => UInt8.ofNat n :: lowBytes count (n / 256)

def littleEndian32 (w : UInt32) : List UInt8 := lowBytes 4 w.toNat

def littleEndian64 (w : UInt64) : List UInt8 := lowBytes 8 w.toNat

def bigEndian32 (w : UInt32) : List UInt8 := (littleEndian32 w).reverse

def bigEndian64 (w : UInt64) : List UInt8 := (littleEndian64 w).reverse

/-- The number whose bytes these are, the lowest first. -/
def ofLowBytes : List UInt8 → Nat
  | [] => 0
  | b :: bs => b.toNat + 256 * ofLowBytes bs

def takeChunks {α : Type} (size : Nat) : Nat → List α → List (List α)
  | 0, _ => []
  | count + 1, xs => xs.take size :: takeChunks size count (xs.drop size)

/-- Cuts a list into pieces of `size` items, of which the last may be shorter. -/
def chunks {α : Type} (size : Nat) (xs : List α) : List (List α) :=
  takeChunks size ((xs.length + size - 1) / size) xs

def rotateLeft32 (w : UInt32) (bits : UInt32) : UInt32 :=
  (w <<< bits) ||| (w >>> (32 - bits))

def rotateLeft64 (w : UInt64) (bits : UInt64) : UInt64 :=
  (w <<< bits) ||| (w >>> (64 - bits))

end LayeredScene
