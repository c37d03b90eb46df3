import LayeredScene.Json.Basic
import LayeredScene.Proofs.Bytes
import LayeredScene.Proofs.Numeric.Digits

/-! # How long a JSON text is

`Json.size` bounds the number of characters that a value takes without blank space, by recursion on
the value; a comma is counted behind every item and every member.
-/

namespace LayeredScene

namespace Json

mutual

/-- How many characters a value takes at most. -/
def size : Json → Nat
  | .null => 4
  | .bool _ => 5
  | .number n => n.chars.length
  | .text s => (quote s).length
  | .list items => sizeItems items + 2
  | .object members => sizeMembers members + 2

def sizeItems : List Json → Nat
  | [] => 0
  | x :: xs => size x + 1 + sizeItems xs

def sizeMembers : List (String × Json) → Nat
  | [] => 0
  | (key, x) :: xs => (quote key).length + 1 + size x + 1 + sizeMembers xs

end

mutual

theorem length_pour_le (j : Json) (depth : Nat) (out : List Char) :
    (pour .compact j depth out).length ≤ out.length + j.size := by
  cases j with
  | null => simp [pour, size]
  | bool b => cases b <;> simp [pour, size]
  | number n => simp [pour, size, Nat.add_comm]
  | text s => simp [pour, size, Nat.add_comm]
  | list items =>
    have inside := length_pourItems_le items depth true ('[' :: out)
    rw [pour, size]
    split
    · simp
    · simp only [Layout.gap, List.length_cons] at inside ⊢
      omega
  | object members =>
    have inside := length_pourMembers_le members depth true ('{' :: out)
    rw [pour, size]
    split
    · simp
    · simp only [Layout.gap, List.length_cons] at inside ⊢
      omega

theorem length_pourItems_le (items : List Json) (depth : Nat) (first : Bool) (out : List Char) :
    (pourItems .compact items depth first out).length ≤ out.length + sizeItems items := by
  cases items with
  | nil => simp [pourItems, sizeItems]
  | cons x xs =>
    have item := length_pour_le x (depth + 1) (if first then out else ',' :: out)
    have rest := length_pourItems_le xs depth false
      (pour .compact x (depth + 1) (if first then out else ',' :: out))
    rw [pourItems, sizeItems]
    simp only [Layout.gap]
    cases first <;>
      simp only [if_true, if_false, Bool.false_eq_true, List.length_cons] at * <;>
      omega

theorem length_pourMembers_le (members : List (String × Json)) (depth : Nat) (first : Bool)
    (out : List Char) :
    (pourMembers .compact members depth first out).length ≤ out.length + sizeMembers members := by
  cases members with
  | nil => simp [pourMembers, sizeMembers]
  | cons m ms =>
    obtain ⟨key, x⟩ := m
    -- The text before the value: a comma, the key and the colon.
    obtain ⟨before, hbefore⟩ : ∃ before, before = Layout.compact.colon.reverseAux
        ((quote key).reverseAux (if first then out else ',' :: out)) := ⟨_, rfl⟩
    have named : before.length ≤ out.length + 1 + (quote key).length + 1 := by
      cases first <;> simp [hbefore, Layout.colon] <;> omega
    have value := length_pour_le x (depth + 1) before
    have rest := length_pourMembers_le ms depth false (pour .compact x (depth + 1) before)
    rw [pourMembers, sizeMembers]
    simp only [Layout.gap, ← hbefore]
    omega

end

/-! ## Bytes -/

theorem length_utf8_le (s : String) : (utf8 s).length ≤ 4 * s.toList.length := by
  rw [utf8]
  induction s.toList with
  | nil => simp
  | cons c cs ih =>
    have char := c.utf8Size_le_four
    rw [List.flatMap_cons, List.length_append, String.length_utf8EncodeChar, List.length_cons]
    omega

theorem length_utf8_compact_le (j : Json) : (utf8 j.compact).length ≤ 4 * j.size := by
  have chars := length_pour_le j 0 []
  have bytes := length_utf8_le j.compact
  rw [compact, render, String.toList_ofList, List.length_reverse] at bytes
  simp only [List.length_nil] at chars
  rw [compact, render]
  omega

theorem size_double_le (x : Float) : (Json.double x).size ≤ Numeral.charLimit := by
  unfold double
  cases h : Numeral.ofDouble? x with
  | none => simp [size, Numeral.charLimit]
  | some n => exact Numeral.length_ofDouble? h

end Json

end LayeredScene
