import LayeredScene.Files.Path
import LayeredScene.Json.Draft

/-! # Failures

What keeps a compilation from being asked for, found or written.  A line of a source that is not
understood is no failure. -/

namespace LayeredScene

inductive Failure where
  | noStatements
  | flagWithoutValue (flag : String)
  | valueRefused (flag value : String)
  /-- An argument is neither a flag nor an input, or it is a second input. -/
  | argumentRefused (argument : String)
  | noInput
  /-- GLB files are asked for without a path for them. -/
  | noOutputPath
  | inaccessible (path : Path)
  | settingsFault (path : Path) (fault : Fault)
deriving DecidableEq

def Failure.message : Failure → String
  | noStatements => "no GENE statements found in input"
  | flagWithoutValue flag => "missing value for " ++ flag
  | valueRefused flag value => "invalid value '" ++ value ++ "' for " ++ flag
  | argumentRefused argument => "unknown argument '" ++ argument ++ "'"
  | noInput => "no input file given (use '-' for stdin)"
  | noOutputPath => "GLB output is binary and needs --out <path>"
  | inaccessible path => "failed to access " ++ path.text
  | settingsFault path _ => "invalid settings file " ++ path.text

end LayeredScene
