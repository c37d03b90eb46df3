import LayeredScene.Files.Store

/-! # What a program can do to the world around it

A `Host` lists the ways in which a program touches files, streams and the preferences of its user.
A program is written once for any host.  A `World` is the part of the surroundings that such a
program can see or change, and `World.host` acts on it; a real host acts on the machine. -/

namespace LayeredScene

/-- The ways in which a program touches its surroundings, each of which says whether it worked. -/
structure Host (m : Type → Type) where
  readFile : Path → m (Option (List UInt8))
  writeFile : Path → List UInt8 → m Bool
  makeFolders : Path → m Bool
  readInput : m (Option (List UInt8))
  print : List UInt8 → m Bool
  readPreferences : m (Option (List UInt8))
  writePreferences : List UInt8 → m Bool

structure World where
  store : Store := {}
  preferences : Option (List UInt8) := none
  input : List UInt8 := []
  screen : List UInt8 := []
deriving DecidableEq

namespace World

def writeFile (p : Path) (bytes : List UInt8) : StateM World Bool := fun w =>
  match w.store.write p bytes with
  | none => (false, w)
  | some store => (true, { w with store })

def makeFolders (p : Path) : StateM World Bool := fun w =>
  let (store, made) := w.store.makeFolders p
  (made, { w with store })

def host : Host (StateM World) where
  readFile p := fun w => (w.store.read p, w)
  writeFile := writeFile
  makeFolders := makeFolders
  readInput := fun w => (some w.input, w)
  print bytes := fun w => (true, { w with screen := w.screen ++ bytes })
  readPreferences := fun w => (w.preferences, w)
  writePreferences bytes := fun w => (true, { w with preferences := some bytes })

end World

end LayeredScene
