import LayeredScene.Bytes

/-! # SipHash-2-4

A keyed hash of a list of bytes to 64 bits: two rounds per word of the message and four at the end.
-/

namespace LayeredScene

structure SipState where
  v0 : UInt64
  v1 : UInt64
  v2 : UInt64
  v3 : UInt64

namespace SipState

def start (k0 k1 : UInt64) : SipState :=
  { v0 := k0 ^^^ 0x736F6D6570736575
    v1 := k1 ^^^ 0x646F72616E646F6D
    v2 := k0 ^^^ 0x6C7967656E657261
    v3 := k1 ^^^ 0x7465646279746573 }

def round (s : SipState) : SipState :=
  let v0 := s.v0 + s.v1
  let v1 := rotateLeft64 s.v1 13 ^^^ v0
  let v0 := rotateLeft64 v0 32
  let v2 := s.v2 + s.v3
  let v3 := rotateLeft64 s.v3 16 ^^^ v2
  let v0 := v0 + v3
  let v3 := rotateLeft64 v3 21 ^^^ v0
  let v2 := v2 + v1
  let v1 := rotateLeft64 v1 17 ^^^ v2
  let v2 := rotateLeft64 v2 32
  ⟨v0, v1, v2, v3⟩

def absorb (s : SipState) (w : UInt64) : SipState :=
  let s := ({ s with v3 := s.v3 ^^^ w } : SipState).round.round
  { s with v0 := s.v0 ^^^ w }

def finish (s : SipState) : UInt64 :=
  let s := ({ s with v2 := s.v2 ^^^ 0xFF } : SipState).round.round.round.round
  s.v0 ^^^ s.v1 ^^^ s.v2 ^^^ s.v3

end SipState

/-- The message filled up to whole words: zeros, and the length in the last byte. -/
def sipPadded (message : List UInt8) : List UInt8 :=
  message ++ List.replicate (7 - message.length % 8) 0 ++ [UInt8.ofNat message.length]

def sipHash (k0 k1 : UInt64) (message : List UInt8) : UInt64 :=
  let words := (chunks 8 (sipPadded message)).map fun bytes => UInt64.ofNat (ofLowBytes bytes)
  (words.foldl SipState.absorb (.start k0 k1)).finish

end LayeredScene
