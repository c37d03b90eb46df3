import LayeredScene.CommandLine.Arguments
import LayeredScene.CommandLine.Usage
import LayeredScene.Compilation.Basic
import LayeredScene.Output.Delivery
import LayeredScene.Settings.File

/-! # The program

A run reads its arguments, then the settings, then the source, compiles, and only then writes.  So
whatever goes wrong before the first piece of output is written leaves nothing behind. -/

namespace LayeredScene

inductive Outcome where
  | done
  | misused (failure : Failure)
  | failed (failure : Failure)
  /-- A blob is too large for its offsets to be drawn. -/
  | overflowed
  /-- The help cannot be printed. -/
  | unprinted
deriving DecidableEq

def Outcome.exitCode : Outcome → UInt32
  | done => 0
  | failed _ => 1
  | misused _ => 2
  | overflowed | unprinted => 101

namespace Program

variable {m : Type → Type} [Monad m]

/-- The settings for a run: those of the file that is named or else the user's, adjusted by the
arguments. -/
def settings (host : Host m) (a : Arguments) : ExceptT Failure m Settings := do
  let base ←
    match a.settings with
    | some path => Settings.readAt host path
    | none => ExceptT.lift (Settings.readPreferences host)
  return a.adjust base

def source (host : Host m) (a : Arguments) : ExceptT Failure m String := do
  match a.input with
  | none => throw .noInput
  | some (.file path) =>
    match (← host.readFile path).bind text? with
    | some text => return text
    | none => throw (.inaccessible path)
  | some .standardInput =>
    match (← host.readInput).bind text? with
    | some text => return text
    | none => throw (.inaccessible ⟨"<stdin>"⟩)

def compile (host : Host m) (a : Arguments) : ExceptT Failure m Outcome := do
  let settings ← settings host a
  let source ← source host a
  match Compilation.ofSource settings source with
  | .error _ => return .overflowed
  | .ok c =>
    if c.objects.isEmpty then throw .noStatements
    c.deliver host a.format a.out (.ofPretty settings.output.pretty)
    return .done

def run (host : Host m) (words : List String) : m Outcome := do
  match Arguments.ofWords words with
  | .error failure => return .misused failure
  | .ok a =>
    if a.help then
      return if ← host.print (utf8 (usage ++ "\n")) then .done else .unprinted
    else
      match ← (compile host a).run with
      | .ok outcome => return outcome
      | .error failure => return .failed failure

end Program

end LayeredScene
