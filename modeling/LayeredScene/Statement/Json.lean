import LayeredScene.Statement.Basic

/-! # Statements as JSON

A noted value is an object with its kind and the value itself, in either order; the list of the two
is read as well. -/

namespace LayeredScene

namespace Detail

inductive Kind where
  | length
  | count
  | reference
  | text
deriving DecidableEq

def Kind.name : Kind → String
  | length => "length"
  | count => "count"
  | reference => "reference"
  | text => "text"

def Kind.names : List (String × Kind) :=
  [Kind.length, .count, .reference, .text].map fun k => (k.name, k)

def readAs (d : Draft) : Kind → Except Fault Detail
  | .length => .length <$> Codec.double.read d
  | .count => .count <$> Codec.word32.read d
  | .reference => .reference <$> Codec.text.read d
  | .text => .text <$> Codec.text.read d

/-- The two members of a noted value. -/
inductive Part where
  | kind
  | value

/-- Passes over other members up to the first that is a part of a noted value, if there is one. -/
def skipOthers : List (Option String × Draft) →
    Except Fault (Option (Part × Draft × List (Option String × Draft)))
  | [] => .ok none
  | (none, _) :: _ => .error .malformed
  | (some key, d) :: rest =>
    if key = "kind" then .ok (some (.kind, d, rest))
    else if key = "value" then .ok (some (.value, d, rest))
    else
      match d.skip with
      | .ok _ => skipOthers rest
      | .error fault => .error fault

/-- Reads what is left of an object of which both members are known: neither may come again. -/
def readRest (rest : List (Option String × Draft)) (ending : Ending) : Except Fault Unit := do
  match ← skipOthers rest with
  | some _ => throw .mismatch
  | none => ending.check

/-- Reads a noted value from the members of an object.  If the value comes before its kind, it can
only be kept until the kind is known, and then any fault of it is a mismatch. -/
def readObject (members : List (Option String × Draft)) (ending : Ending) :
    Except Fault Detail := do
  match ← skipOthers members with
  | none =>
    ending.check
    throw .mismatch
  | some (.kind, kind, rest) =>
    let kind ← Codec.readChoice Kind.names kind
    match ← skipOthers rest with
    | none =>
      ending.check
      throw .mismatch
    | some (.kind, _, _) => throw .mismatch
    | some (.value, value, rest) =>
      let v ← readAs value kind
      readRest rest ending
      return v
  | some (.value, value, rest) =>
    value.keep
    match ← skipOthers rest with
    | none =>
      ending.check
      throw .mismatch
    | some (.value, _, _) => throw .mismatch
    | some (.kind, kind, rest) =>
      let kind ← Codec.readChoice Kind.names kind
      let v ← (readAs value kind).mapError fun _ => .mismatch
      readRest rest ending
      return v

/-- Reads a noted value from the list of its kind and the value. -/
def readPair (items : List Draft) (ending : Ending) : Except Fault Detail := do
  match items with
  | [] =>
    ending.check
    throw .mismatch
  | kind :: rest =>
    let name ← Codec.text.read kind
    let kind ← Codec.named Kind.names name
    match rest with
    | [] =>
      ending.check
      throw .mismatch
    | value :: rest =>
      let v ← readAs value kind
      if !rest.isEmpty then throw .malformed
      ending.checkFull
      return v

def tagged (kind : Kind) (value : Json) : Json :=
  .object [("kind", .text kind.name), ("value", value)]

def codec : Codec Detail where
  read
    | .object members ending => readObject members ending
    | .list items ending => readPair items ending
    | d => .error d.unfit
  write
    | .length meters => tagged .length (.double meters)
    | .count n => tagged .count (.nat n.toNat)
    | .reference name => tagged .reference (.text name)
    | .text s => tagged .text (.text s)

end Detail

namespace Statement

def record : Record (String × String × Shape × Triple Float × Triple Float × Triple Float ×
    Material × List String × SortedMap Detail × Unit) :=
  .cons (.required "object_type" .text) <|
  .cons (.required "layer" .text) <|
  .cons (.required "shape" Shape.codec) <|
  .cons (.required "position" Codec.double.triple) <|
  .cons (.required "size" Codec.double.triple) <|
  .cons (.required "rotation" Codec.double.triple) <|
  .cons (.required "material" Material.codec) <|
  .cons (.required "modifiers" Codec.text.list) <|
  .cons (.entries "metadata" Detail.codec) .unit

def codec : Codec Statement :=
  record.codec
    (fun (objectType, layer, shape, position, size, rotation, material, modifiers, details, _) =>
      { objectType, layer, shape, position, size, rotation, material, modifiers, details })
    (fun s => (s.objectType, s.layer, s.shape, s.position, s.size, s.rotation, s.material,
      s.modifiers, s.details, ()))

end Statement

end LayeredScene
