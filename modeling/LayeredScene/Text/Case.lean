import LayeredScene.Text.Blank
import LayeredScene.Text.CaseTable

/-! # Upper and lower case

The full case mappings of the Unicode standard: a character may map to several (`ß` to `SS`), and
the lower case of a capital sigma depends on whether it ends a word.  ASCII letters are mapped
without the tables. -/

namespace LayeredScene.Text

/-- The one-character mapping of a table, if it holds the code point. -/
def CaseSpan.find? (table : List CaseSpan) (n : Nat) : Option Nat :=
  (table.find? (·.holds n)).map fun s => ((n : Int) + s.shift).toNat

/-- The mapping of a character by a table of long forms and a table of single ones. -/
def mapChar (long : List (Nat × List Nat)) (spans : List CaseSpan) (c : Char) : List Char :=
  match long.lookup c.toNat with
  | some ns => ns.map Char.ofNat
  | none =>
    match CaseSpan.find? spans c.toNat with
    | some n => [Char.ofNat n]
    | none => [c]

def upperChar (c : Char) : List Char :=
  if c.toNat < 128 then [c.toUpper] else mapChar longUpper upperSpans c

def lowerChar (c : Char) : List Char :=
  if c.toNat < 128 then [c.toLower] else mapChar longLower lowerSpans c

/-- Is the character passed over when the neighbour of a letter is looked for? -/
def isIgnorable (c : Char) : Bool :=
  inRanges ignorableRanges c

/-- Is the first character that is not passed over a cased one? -/
def startsCased (cs : List Char) : Bool :=
  match cs.dropWhile isIgnorable with
  | [] => false
  | c :: _ => inRanges casedRanges c

/-- The lower case of a capital sigma between what stands before it, nearest first, and after. -/
def lowerSigma (before after : List Char) : Char :=
  if startsCased before && !startsCased after then 'ς' else 'σ'

/-- The lower case of the characters that follow `before`, which is listed nearest first. -/
def lowerAfter (before : List Char) : List Char → List Char
  | [] => []
  | c :: cs =>
    (if c = 'Σ' then [lowerSigma before cs] else lowerChar c) ++ lowerAfter (c :: before) cs

def upper (s : String) : String :=
  String.ofList (s.toList.flatMap upperChar)

def lower (s : String) : String :=
  String.ofList (lowerAfter [] s.toList)

/-- The text with its ASCII letters in lower case and all else as it is. -/
def lowerAscii (s : String) : String :=
  String.ofList (s.toList.map Char.toLower)

end LayeredScene.Text
