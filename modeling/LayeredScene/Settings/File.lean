import LayeredScene.Bytes
import LayeredScene.Failure
import LayeredScene.Files.Host
import LayeredScene.Settings.Json

/-! # Settings files

A settings file holds settings as JSON.  A file that is asked for has to be there and to be right;
the preferences of the user count only if they are. -/

namespace LayeredScene.Settings

variable {m : Type → Type} [Monad m]

def ofFile (path : Path) (content : Option (List UInt8)) : Except Failure Settings :=
  match content.bind text? with
  | none => .error (.inaccessible path)
  | some text => (codec.ofText text).mapError (.settingsFault path)

def ofPreferences (content : Option (List UInt8)) : Settings :=
  match (content.bind text?).map codec.ofText with
  | some (.ok settings) => settings
  | _ => {}

def fileText (s : Settings) : String :=
  (codec.write s).render .pretty

def readAt (host : Host m) (path : Path) : ExceptT Failure m Settings := do
  let content ← host.readFile path
  ofFile path content

def readPreferences (host : Host m) : m Settings := do
  return ofPreferences (← host.readPreferences)

def writeAt (host : Host m) (s : Settings) (path : Path) : ExceptT Failure m Unit := do
  if let some folder := path.parent? then
    unless ← host.makeFolders folder do
      throw (.inaccessible folder)
  unless ← host.writeFile path (utf8 s.fileText) do
    throw (.inaccessible path)

def writePreferences (host : Host m) (s : Settings) : m Bool :=
  host.writePreferences (utf8 s.fileText)

end LayeredScene.Settings
