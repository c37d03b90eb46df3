import LayeredScene.Statement.Line

/-! # The lines of a source text

A source text has one statement per line.  Blank lines and lines that start with `#` are skipped;
the lines that are left keep the number that they have in the text. -/

namespace LayeredScene

/-- A line that should hold a statement. -/
structure NumberedLine where
  /-- The number of the line in the text, from one. -/
  number : Nat
  /-- The text without the blank space around it. -/
  text : String
deriving DecidableEq

namespace NumberedLine

/-- Does the line count?  It does unless it is blank or a comment. -/
def counts (l : NumberedLine) : Bool :=
  match l.text.toList with
  | [] => false
  | c :: _ => c != '#'

def numbered (first : Nat) : List String → List NumberedLine
  | [] => []
  | line :: rest => ⟨first, Text.trim line⟩ :: numbered (first + 1) rest

def ofSource (source : String) : List NumberedLine :=
  (numbered 1 (Text.lines source)).filter counts

/-- The object type before the first separator, if there is a separator. -/
def leadingType? (l : NumberedLine) : Option String :=
  match segments l.text with
  | objectType :: _ :: _ => some (Text.upper objectType)
  | _ => none

end NumberedLine

structure DroppedLine where
  line : NumberedLine
  fault : TooFewSegments
deriving DecidableEq

def DroppedLine.message (d : DroppedLine) : String :=
  "line " ++ toString d.line.number ++ ": " ++ d.fault.message ++ " (" ++ d.line.text ++ ")"

end LayeredScene
