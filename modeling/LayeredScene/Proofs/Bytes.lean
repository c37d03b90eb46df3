import Mathlib
import LayeredScene.Bytes

/-! # Bytes hold what was put into them

Numbers, words and texts are recovered from their bytes.  `words?` reads the words of 32 bits that
`littleEndian32` writes.
-/

namespace LayeredScene

/-! ## Numbers -/

@[simp] theorem length_lowBytes (count n : Nat) : (lowBytes count n).length = count := by
  induction count generalizing n with
  | zero => rfl
  | succ count ih => simp [lowBytes, ih]

/-- As many low bytes as there are hold the number up to its multiples of that size. -/
theorem ofLowBytes_lowBytes (count n : Nat) :
    ofLowBytes (lowBytes count n) = n % 256 ^ count := by
  induction count generalizing n with
  | zero => simp [lowBytes, ofLowBytes, Nat.mod_one]
  | succ count ih =>
    -- The lowest byte is the remainder by 256, and the others are the bytes of the quotient.
    have low : (UInt8.ofNat n).toNat = n % 256 := UInt8.toNat_ofNat' ..
    rw [lowBytes, ofLowBytes, low, ih, Nat.pow_succ, Nat.mul_comm (256 ^ count), Nat.mod_mul]

/-! ## Words -/

@[simp] theorem length_littleEndian32 (w : UInt32) : (littleEndian32 w).length = 4 :=
  length_lowBytes 4 w.toNat

/-- The word that four bytes hold, the lowest first. -/
def wordOf (bytes : List UInt8) : UInt32 :=
  UInt32.ofNat (ofLowBytes bytes)

theorem wordOf_littleEndian32 (w : UInt32) : wordOf (littleEndian32 w) = w := by
  have small : w.toNat < 256 ^ 4 := w.toNat_lt
  rw [wordOf, littleEndian32, ofLowBytes_lowBytes, Nat.mod_eq_of_lt small, UInt32.ofNat_toNat]

/-- The words that bytes hold, if they are whole words. -/
def words? : List UInt8 → Option (List UInt32)
  | [] => some []
  | a :: b :: c :: d :: rest => (words? rest).map (wordOf [a, b, c, d] :: ·)
  | _ => none

theorem words?_flatMap (ws : List UInt32) : words? (ws.flatMap littleEndian32) = some ws := by
  induction ws with
  | nil => rfl
  | cons w ws ih =>
    have bytes : (w :: ws).flatMap littleEndian32 =
        littleEndian32 w ++ ws.flatMap littleEndian32 := List.flatMap_cons ..
    have word := wordOf_littleEndian32 w
    -- `words?` matches on four bytes, so that the word has to be opened up into them.
    rw [bytes]
    simp only [littleEndian32, lowBytes, List.cons_append, List.nil_append] at word ih ⊢
    simp only [words?, ih, word, Option.map_some]

theorem length_flatMap_littleEndian32 (ws : List UInt32) :
    (ws.flatMap littleEndian32).length = 4 * ws.length := by
  induction ws with
  | nil => rfl
  | cons w ws ih =>
    rw [List.flatMap_cons, List.length_append, ih, length_littleEndian32, List.length_cons]
    omega

/-! ## Texts -/

theorem text?_utf8 (s : String) : text? (utf8 s) = some s := by
  -- The list of bytes and the byte array of the string hold the same.
  have bytes : (⟨(utf8 s).toArray⟩ : ByteArray) = s.toByteArray := by
    rw [← String.utf8Encode_toList, List.utf8Encode]
    exact ByteArray.ext List.data_toByteArray.symm
  rw [text?, bytes, String.fromUTF8?, dif_pos s.isValidUTF8]
  rfl

theorem utf8_append (s t : String) : utf8 (s ++ t) = utf8 s ++ utf8 t := by
  simp [utf8]

theorem utf8_spaces (count : Nat) :
    utf8 (String.ofList (List.replicate count ' ')) = List.replicate count 0x20 := by
  have space : String.utf8EncodeChar ' ' = [0x20] := by decide
  simp only [utf8, String.toList_ofList]
  induction count with
  | zero => rfl
  | succ count ih => rw [List.replicate_succ, List.flatMap_cons, ih, space]; rfl

end LayeredScene
