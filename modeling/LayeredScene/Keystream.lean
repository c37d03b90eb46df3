import LayeredScene.Bytes

/-! # A stream of random words

The words of a ChaCha stream with eight rounds.  A seed of 64 bits is spread over the key by a
congruential generator, and the blocks are numbered from zero. -/

namespace LayeredScene

/-- One of the four rows of the state of a block. -/
structure ChaChaRow where
  w0 : UInt32
  w1 : UInt32
  w2 : UInt32
  w3 : UInt32

namespace ChaChaRow

def zip (f : UInt32 → UInt32 → UInt32) (r s : ChaChaRow) : ChaChaRow :=
  ⟨f r.w0 s.w0, f r.w1 s.w1, f r.w2 s.w2, f r.w3 s.w3⟩

def rotate (bits : UInt32) (r : ChaChaRow) : ChaChaRow :=
  ⟨rotateLeft32 r.w0 bits, rotateLeft32 r.w1 bits, rotateLeft32 r.w2 bits, rotateLeft32 r.w3 bits⟩

def shift (r : ChaChaRow) : ChaChaRow := ⟨r.w1, r.w2, r.w3, r.w0⟩

def words (r : ChaChaRow) : List UInt32 := [r.w0, r.w1, r.w2, r.w3]

end ChaChaRow

structure ChaChaState where
  a : ChaChaRow
  b : ChaChaRow
  c : ChaChaRow
  d : ChaChaRow

namespace ChaChaState

open ChaChaRow (zip)

/-- A quarter round on every column at once. -/
def columns (s : ChaChaState) : ChaChaState :=
  let a := zip (· + ·) s.a s.b
  let d := (zip (· ^^^ ·) s.d a).rotate 16
  let c := zip (· + ·) s.c d
  let b := (zip (· ^^^ ·) s.b c).rotate 12
  let a := zip (· + ·) a b
  let d := (zip (· ^^^ ·) d a).rotate 8
  let c := zip (· + ·) c d
  let b := (zip (· ^^^ ·) b c).rotate 7
  ⟨a, b, c, d⟩

/-- A quarter round on every diagonal at once. -/
def diagonals (s : ChaChaState) : ChaChaState :=
  let t := columns ⟨s.a, s.b.shift, s.c.shift.shift, s.d.shift.shift.shift⟩
  ⟨t.a, t.b.shift.shift.shift, t.c.shift.shift, t.d.shift⟩

def doubleRound (s : ChaChaState) : ChaChaState := s.columns.diagonals

/-- The words of the block that starts from this state. -/
def block (s : ChaChaState) : List UInt32 :=
  let t := s.doubleRound.doubleRound.doubleRound.doubleRound
  (zip (· + ·) s.a t.a).words ++ (zip (· + ·) s.b t.b).words ++
    (zip (· + ·) s.c t.c).words ++ (zip (· + ·) s.d t.d).words

end ChaChaState

/-- A stream of words: its key, the number of the next block, and the words left of the last one. -/
structure Keystream where
  low : ChaChaRow
  high : ChaChaRow
  counter : UInt64
  left : List UInt32

namespace Keystream

/-- One word of a key from the state of the congruential generator. -/
def keyWord (state : UInt64) : UInt32 :=
  let x := (((state >>> 18) ^^^ state) >>> 27).toUInt32
  let turn := (state >>> 59).toUInt32
  (x >>> turn) ||| (x <<< ((32 - turn) % 32))

/-- The next state of the congruential generator. -/
def advance (state : UInt64) : UInt64 :=
  state * 6364136223846793005 + 11634580027462260723

def keyRow (state : UInt64) : ChaChaRow × UInt64 :=
  let s0 := advance state
  let s1 := advance s0
  let s2 := advance s1
  let s3 := advance s2
  (⟨keyWord s0, keyWord s1, keyWord s2, keyWord s3⟩, s3)

def ofSeed (seed : UInt64) : Keystream :=
  let (low, state) := keyRow seed
  let (high, _) := keyRow state
  ⟨low, high, 0, []⟩

def block (k : Keystream) : List UInt32 :=
  ChaChaState.block
    { a := ⟨0x61707865, 0x3320646E, 0x79622D32, 0x6B206574⟩
      b := k.low
      c := k.high
      d := ⟨k.counter.toUInt32, (k.counter >>> 32).toUInt32, 0, 0⟩ }

def next (k : Keystream) : UInt32 × Keystream :=
  match k.left with
  | w :: ws => (w, { k with left := ws })
  | [] =>
    let words := k.block
    (words.headD 0, { k with counter := k.counter + 1, left := words.tail })

end Keystream

end LayeredScene
