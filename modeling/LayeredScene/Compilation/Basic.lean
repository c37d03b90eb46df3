import LayeredScene.Source.Block
import LayeredScene.Object.OfLines
import LayeredScene.Object.Outline
import LayeredScene.Scene.OfObject

/-! # Compilations

Compiling a source text takes every block to an object and every object to its scene and its
outline. The objects are numbered in the order of the blocks. -/

namespace LayeredScene

structure BuiltObject where
  object : Object
  scene : Scene
  outline : String
deriving DecidableEq

structure Compilation where
  objects : List BuiltObject
  dropped : List DroppedLine
deriving DecidableEq

namespace Compilation

def buildObject (settings : Settings) (o : Object) (block : Nat) :
    Except RangeOverflow BuiltObject := do
  let scene ← Scene.ofObject o block settings
  return { object := o, scene, outline := o.outline }

def ofReadings (settings : Settings) (readings : List Reading) :
    Except RangeOverflow Compilation := do
  let objects ← readings.zipIdx.mapM fun (a, k) => buildObject settings a.object k
  return { objects, dropped := readings.flatMap (·.dropped) }

def ofSource (settings : Settings) (source : String) : Except RangeOverflow Compilation :=
  ofReadings settings ((Block.ofSource source).filterMap fun b => Reading.ofLines? b.lines)

def statementCount (c : Compilation) : Nat :=
  (c.objects.flatMap (·.object.statements)).length

end Compilation

end LayeredScene
