import LayeredScene.Source.Line

/-! # Blocks of a source text

A source text can describe several objects, one after the other.  A block is a run of lines for one
object: a new block starts with the first line whose leading object type differs from that of the
block.  A line without a separator belongs to the block that it stands in, and a block that has no
type yet takes that of the first line which has one. -/

namespace LayeredScene

/-- A run of lines for one object. -/
structure Block where
  objectType : String
  lines : List NumberedLine
deriving DecidableEq

namespace Block

def start (l : NumberedLine) : Block :=
  ⟨l.leadingType?.getD "", [l]⟩

/-- The block continued by a line, if the line belongs to it. -/
def take? (b : Block) (l : NumberedLine) : Option Block :=
  match l.leadingType? with
  | none => some { b with lines := b.lines ++ [l] }
  | some objectType =>
    if b.objectType = objectType ∨ b.objectType = "" then some ⟨objectType, b.lines ++ [l]⟩
    else none

/-- The blocks of some lines that follow those of an unfinished block. -/
def splitFrom (b : Block) : List NumberedLine → List Block
  | [] => [b]
  | l :: ls =>
    match b.take? l with
    | some b => splitFrom b ls
    | none => b :: splitFrom (start l) ls

def split : List NumberedLine → List Block
  | [] => []
  | l :: ls => splitFrom (start l) ls

def ofSource (source : String) : List Block :=
  split (NumberedLine.ofSource source)

end Block

end LayeredScene
