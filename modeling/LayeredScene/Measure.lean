import LayeredScene.Text.Case

/-! # Measurements

A length such as `50cm`: a number directly followed by a unit.  The number is a run of digits and
dots with at least one digit and at most one dot.  A token is a measurement if nothing follows the
unit; where a length is wanted, what follows is ignored, and a token without a measurement at its
start stands for one meter. -/

namespace LayeredScene

inductive LengthUnit where
  | millimeter
  | centimeter
  | meter
  | inch
  | foot
deriving DecidableEq

namespace LengthUnit

def suffix : LengthUnit → String
  | millimeter => "mm"
  | centimeter => "cm"
  | meter => "m"
  | inch => "inch"
  | foot => "foot"

def meters : LengthUnit → Float
  | millimeter => 0.001
  | centimeter => 0.01
  | meter => 1
  | inch => 0.0254
  | foot => 0.3048

/-- The units in the order in which they are looked for: `mm` before `m`. -/
def all : List LengthUnit := [millimeter, centimeter, meter, inch, foot]

def ofSuffix? (suffix : String) : Option LengthUnit :=
  all.find? (·.suffix == suffix)

def cut? (cs : List Char) : Option (LengthUnit × List Char) :=
  (all.find? (·.suffix.toList.isPrefixOf cs)).map fun u => (u, cs.drop u.suffix.length)

end LengthUnit

/-- The number and the unit at the start of a token, and what follows them. -/
structure Measurement where
  value : Float
  unit : LengthUnit
  rest : List Char

namespace Measurement

def isNumeric (c : Char) : Bool :=
  c.isDigit || c == '.'

/-- The number that digits with at most one dot among them spell. -/
def number? (cs : List Char) : Option Float :=
  let digits := cs.filter Char.isDigit
  if digits.isEmpty ∨ 1 < cs.count '.' then none
  else
    let value := digits.foldl (fun n c => n * 10 + (c.toNat - 48)) 0
    let places := ((cs.dropWhile (· != '.')).drop 1).length
    some (Float.ofScientific value true places)

def scan? (cs : List Char) : Option Measurement := do
  let value ← number? (cs.takeWhile isNumeric)
  let (unit, rest) ← LengthUnit.cut? (cs.dropWhile isNumeric)
  return { value, unit, rest }

def meters (m : Measurement) : Float :=
  m.value * m.unit.meters

end Measurement

/-- The length that stands for a token without a measurement. -/
def fallbackLength : Float := 1

def lengthOf (token : String) : Float :=
  ((Measurement.scan? (Text.lower token).toList).map Measurement.meters).getD fallbackLength

/-- Is the token a measurement and nothing else? -/
def isLength (token : String) : Bool :=
  (Measurement.scan? (Text.lower token).toList).any (·.rest.isEmpty)

end LayeredScene
