import LayeredScene.Statement.Basic
import LayeredScene.Vocabulary.Layer

/-! # Objects

An object is the statements about one thing, grouped by layer.  The layers are in the order in which
they were first mentioned, and the statements of a layer are in the order in which they were made.
-/

namespace LayeredScene

inductive Precision where
  | standard
  | medical
deriving DecidableEq

structure Layer where
  name : String
  statements : List Statement
deriving DecidableEq

structure Object where
  objectType : String
  /-- Can the layers be shown and hidden? -/
  isComposite : Bool
  layers : List Layer
  layerCount : Nat
  precision : Precision
deriving DecidableEq

namespace Layer

/-- Adds a statement to its layer, which is a new one at the end if there is none of its name. -/
def add (s : Statement) : List Layer → List Layer
  | [] => [⟨s.layer, [s]⟩]
  | l :: ls =>
    if l.name = s.layer then { l with statements := l.statements ++ [s] } :: ls
    else l :: add s ls

end Layer

namespace Object

/-- An object without statements.  Layered composites ask for medical precision. -/
def empty (objectType : String) (isComposite : Bool) : Object :=
  { objectType, isComposite
    layers := []
    layerCount := 0
    precision := if isComposite then .medical else .standard }

def push (o : Object) (s : Statement) : Object :=
  let layers := Layer.add s o.layers
  { o with layers, layerCount := layers.length }

def statements (o : Object) : List Statement :=
  o.layers.flatMap (·.statements)

def statementCount (o : Object) : Nat :=
  o.statements.length

/-- The object of some statements.  It is a layered composite if its type or its layers say so. -/
def ofStatements (objectType : String) (statements : List Statement) : Object :=
  statements.foldl push
    (empty objectType (formsComposite objectType (statements.map (·.layer))))

end Object

end LayeredScene
