import LayeredScene.Bytes

/-! # SHA-1

A hash of a list of bytes to twenty bytes.  The message is taken in block by block; of the message
schedule only a window of sixteen words is kept, which moves on by one word per round. -/

namespace LayeredScene

structure ShaState where
  a : UInt32
  b : UInt32
  c : UInt32
  d : UInt32
  e : UInt32

namespace ShaState

def start : ShaState :=
  ⟨0x67452301, 0xEFCDAB89, 0x98BADCFE, 0x10325476, 0xC3D2E1F0⟩

def mix (s : ShaState) (round : Nat) : UInt32 :=
  if round < 20 then (s.b &&& s.c ||| ~~~s.b &&& s.d) + 0x5A827999
  else if round < 40 then (s.b ^^^ s.c ^^^ s.d) + 0x6ED9EBA1
  else if round < 60 then (s.b &&& s.c ||| s.b &&& s.d ||| s.c &&& s.d) + 0x8F1BBCDC
  else (s.b ^^^ s.c ^^^ s.d) + 0xCA62C1D6

def step (s : ShaState) (round : Nat) (w : UInt32) : ShaState :=
  { a := rotateLeft32 s.a 5 + s.mix round + s.e + w
    b := s.a
    c := rotateLeft32 s.b 30
    d := s.c
    e := s.d }

/-- The window of the schedule moved on by one word. -/
def slide (window : List UInt32) : List UInt32 :=
  let w (k : Nat) : UInt32 := window.getD k 0
  window.drop 1 ++ [rotateLeft32 (w 13 ^^^ w 8 ^^^ w 2 ^^^ w 0) 1]

/-- The rounds from a given one to the eightieth. -/
def rounds (s : ShaState) (window : List UInt32) : Nat → ShaState
  | 0 => s
  | left + 1 => rounds (s.step (79 - left) (window.headD 0)) (slide window) left

def absorb (s : ShaState) (block : List UInt32) : ShaState :=
  let t := s.rounds block 80
  ⟨s.a + t.a, s.b + t.b, s.c + t.c, s.d + t.d, s.e + t.e⟩

def words (s : ShaState) : List UInt32 := [s.a, s.b, s.c, s.d, s.e]

end ShaState

/-- The message filled up to whole blocks: a one bit, zeros, and the length in bits. -/
def shaPadded (message : List UInt8) : List UInt8 :=
  message ++ 0x80 :: List.replicate ((119 - message.length % 64) % 64) 0 ++
    bigEndian64 (UInt64.ofNat (8 * message.length))

def sha1 (message : List UInt8) : List UInt8 :=
  let words := (chunks 4 (shaPadded message)).map fun bytes =>
    UInt32.ofNat (ofLowBytes bytes.reverse)
  ((chunks 16 words).foldl ShaState.absorb .start).words.flatMap bigEndian32

end LayeredScene
