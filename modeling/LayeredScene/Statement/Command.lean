import LayeredScene.Statement.Basic
import LayeredScene.Vocabulary.Direction
import LayeredScene.Measure
import LayeredScene.Text.WholeNumber

/-! # Commands

What the tokens of a statement say.  A token is looked up in lower case as a shape, a direction, a
material, a measurement and a key, in that order, and is a modifier if it is none of these.  A
direction with an axis takes the next token too if that is a measurement, and a key takes the next
token whatever it is; without a next token a key is a modifier. -/

namespace LayeredScene

inductive Command where
  | shape (s : Shape)
  /-- An offset along an axis, by a distance in meters unless it is the axis itself. -/
  | move (axis : Triple Float) (distance : Option Float)
  | motion (tag : String)
  | material (m : Material)
  /-- The same extent on every axis. -/
  | extent (meters : Float)
  | note (key : String) (value : Detail)
  | modifier (word : String)

/-- A command and whether it takes the next token too. -/
structure CommandStep where
  command : Command
  takesNext : Bool

namespace Command

/-- The number of repetitions that an argument spells, or else the argument itself. -/
def repetitions (argument : String) : Detail :=
  match Text.wholeNumber? UInt32.size argument with
  | some n => .count (UInt32.ofNat n)
  | none => .text argument

def note? (word argument : String) : Option Command :=
  if word = "diameter" then some (.note "diameter" (.length (lengthOf argument)))
  else if word = "repeat" then some (.note "repeat" (repetitions argument))
  else if word = "attach" then some (.note "attach_to" (.reference argument))
  else none

def ofDirection (next : Option String) : Direction → CommandStep
  | .motion tag => ⟨.motion tag, false⟩
  | .vector axis =>
    match next.filter isLength with
    | some distance => ⟨.move axis (some (lengthOf distance)), true⟩
    | none => ⟨.move axis none, false⟩

def ofToken (token : String) (next : Option String) : CommandStep :=
  let word := Text.lower token
  match Shape.ofKeyword? word with
  | some s => ⟨.shape s, false⟩
  | none =>
    match Direction.ofWord? word with
    | some d => ofDirection next d
    | none =>
      match Material.ofWord? word with
      | some m => ⟨.material m, false⟩
      | none =>
        if isLength word then ⟨.extent (lengthOf word), false⟩
        else
          match next.bind (note? word) with
          | some command => ⟨command, true⟩
          | none => ⟨.modifier word, false⟩

def ofTokens : List String → List Command
  | [] => []
  | [token] => [(ofToken token none).command]
  | token :: next :: rest =>
    let step := ofToken token (some next)
    step.command :: if step.takesNext then ofTokens rest else ofTokens (next :: rest)

end Command

namespace Statement

def apply (s : Statement) : Command → Statement
  | .shape shape => { s with shape }
  | .move axis none => { s with position := axis }
  | .move axis (some meters) => { s with position := axis.map (· * meters) }
  | .motion tag => { s with modifiers := s.modifiers ++ [tag] }
  | .material material => { s with material }
  | .extent meters => { s with size := .splat meters }
  | .note key value => { s with details := s.details.insert key value }
  | .modifier word => { s with modifiers := s.modifiers ++ [word] }

end Statement

end LayeredScene
