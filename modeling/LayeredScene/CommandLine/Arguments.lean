import LayeredScene.Failure
import LayeredScene.Output.Format
import LayeredScene.Settings.Basic
import LayeredScene.Text.WholeNumber

/-! # Arguments

Arguments are read from left to right.  A switch stands for itself, a flag takes the next argument
as its value, whatever that looks like, and anything else is the input, of which there may be one.
Of several values of a flag the last one counts.  The first argument that is wrong decides the
failure; what is missing is looked for only after the last one. -/

namespace LayeredScene

inductive Input where
  | standardInput
  | file (path : Path)
deriving DecidableEq

inductive Switch where
  | help | sequential | compact
deriving DecidableEq

/-- An argument that takes the next one as its value. -/
inductive Flag where
  | format | out | settings | seed
deriving DecidableEq

structure Arguments where
  input : Option Input := none
  format : OutputFormat := .json
  out : Option Path := none
  seed : Option UInt64 := none
  settings : Option Path := none
  sequential : Bool := false
  compact : Bool := false
  help : Bool := false
deriving DecidableEq

def Switch.ofWord? : String → Option Switch
  | "--help" | "-h" => some .help
  | "--sequential" => some .sequential
  | "--compact" => some .compact
  | _ => none

def Flag.ofWord? : String → Option Flag
  | "--format" => some .format
  | "--out" => some .out
  | "--settings" => some .settings
  | "--seed" => some .seed
  | _ => none

namespace Arguments

def turnOn (a : Arguments) : Switch → Arguments
  | .help => { a with help := true }
  | .sequential => { a with sequential := true }
  | .compact => { a with compact := true }

/-- The arguments with a value for a flag, if the flag admits it. -/
def assign? (a : Arguments) (flag : Flag) (value : String) : Option Arguments :=
  match flag with
  | .format => (OutputFormat.ofName? value).map fun format => { a with format }
  | .out => some { a with out := some ⟨value⟩ }
  | .settings => some { a with settings := some ⟨value⟩ }
  | .seed =>
    (Text.wholeNumber? UInt64.size value).map fun n => { a with seed := some (UInt64.ofNat n) }

def looksLikeFlag (word : String) : Bool :=
  ['-', '-'].isPrefixOf word.toList

/-- The arguments with an input, if they have none yet and this does not look like a flag. -/
def feed? (a : Arguments) (word : String) : Option Arguments :=
  if a.input.isSome || looksLikeFlag word then none
  else some { a with input := some (if word = "-" then .standardInput else .file ⟨word⟩) }

def scan (a : Arguments) : List String → Except Failure Arguments
  | [] => .ok a
  | word :: rest =>
    match Switch.ofWord? word with
    | some switch => scan (a.turnOn switch) rest
    | none =>
      match Flag.ofWord? word with
      | some flag =>
        match rest with
        | [] => .error (.flagWithoutValue word)
        | value :: rest =>
          match a.assign? flag value with
          | some a => scan a rest
          | none => .error (.valueRefused word value)
      | none =>
        match a.feed? word with
        | some a => scan a rest
        | none => .error (.argumentRefused word)

def check (a : Arguments) : Except Failure Arguments :=
  if a.help then .ok a
  else if a.input.isNone then .error .noInput
  else if a.format = .glb ∧ a.out.isNone then .error .noOutputPath
  else .ok a

def ofWords (words : List String) : Except Failure Arguments := do
  let a ← scan {} words
  a.check

/-- Settings with what the arguments say put in their place. -/
def adjust (a : Arguments) (s : Settings) : Settings where
  mesh := { s.mesh with seed := a.seed.getD s.mesh.seed }
  output :=
    { parallel := s.output.parallel && !a.sequential
      pretty := s.output.pretty && !a.compact }

end Arguments

end LayeredScene
