import LayeredScene.Statement.Command

/-! # Statements as lines of text

A line has the form `OBJECT > layer > commands`.  Anything after a third `>` is ignored.  The
commands have no way to go wrong, so the only fault of a line is that it has fewer than three
segments. -/

namespace LayeredScene

/-- Why a line holds no statement: it has this many segments, and needs three. -/
structure TooFewSegments where
  found : Nat
deriving DecidableEq

def TooFewSegments.message (m : TooFewSegments) : String :=
  "expected 'OBJECT > layer > commands', found " ++ toString m.found ++ " segment(s)"

def separator : Char := '>'

def segments (line : String) : List String :=
  (Text.split separator line).map Text.trim

namespace Statement

def ofSegments (objectType layer commands : String) : Statement :=
  (Command.ofTokens (Text.words commands)).foldl apply
    (plain (Text.upper objectType) (Text.lower layer))

def ofLine (line : String) : Except TooFewSegments Statement :=
  match segments line with
  | objectType :: layer :: commands :: _ => .ok (ofSegments objectType layer commands)
  | few => .error ⟨few.length⟩

end Statement

end LayeredScene
