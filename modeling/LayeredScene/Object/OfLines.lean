import LayeredScene.Object.Basic
import LayeredScene.Source.Line

/-! # The object of a run of lines

Every line either gives a statement to the object or is dropped. -/

namespace LayeredScene

/-- The object of a run of lines, with the lines that were dropped. -/
structure Reading where
  object : Object
  dropped : List DroppedLine

namespace NumberedLine

def statement? (l : NumberedLine) : Option Statement :=
  (Statement.ofLine l.text).toOption

def dropped? (l : NumberedLine) : Option DroppedLine :=
  match Statement.ofLine l.text with
  | .ok _ => none
  | .error fault => some ⟨l, fault⟩

end NumberedLine

namespace Reading

/-- The type of an object: that of its first statement, or else what the first line leads with, or
else that whole line. -/
def objectType (statements : List Statement) (first : NumberedLine) : String :=
  match statements with
  | s :: _ => s.objectType
  | [] => first.leadingType?.getD (Text.upper first.text)

/-- The object of a run of lines; no lines make no object. -/
def ofLines? : List NumberedLine → Option Reading
  | [] => none
  | first :: rest =>
    let statements := (first :: rest).filterMap NumberedLine.statement?
    some
      { object := Object.ofStatements (objectType statements first) statements
        dropped := (first :: rest).filterMap NumberedLine.dropped? }

/-- The object of a whole source text, taken as one run of lines. -/
def ofSource? (source : String) : Option Reading :=
  ofLines? (NumberedLine.ofSource source)

end Reading

end LayeredScene
