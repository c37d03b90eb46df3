/-! # Whole numbers as text

A whole number is spelled with ASCII digits, after a plus sign if one likes, and has to fit below a
bound. -/

namespace LayeredScene.Text

/-- The number that digits spell, or nothing if a character is no digit or there is none. -/
def digits? (cs : List Char) : Option Nat :=
  if !cs.isEmpty && cs.all Char.isDigit then
    some (cs.foldl (fun n c => n * 10 + (c.toNat - 48)) 0)
  else none

/-- The number that a text spells, if it is below the bound. -/
def wholeNumber? (bound : Nat) (s : String) : Option Nat :=
  let cs := s.toList
  let unsigned := if cs.head? = some '+' then cs.tail else cs
  (digits? unsigned).filter (· < bound)

end LayeredScene.Text
