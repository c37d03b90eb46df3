import LayeredScene.Json.Codec

/-! # Records as JSON

A record is written as an object with its fields in order.  It is read from an object, in any order
of the members and with unknown ones passed over, or from a list of the field values in order.  A
`Record` is built field by field; what has been read so far is kept in slots, so one pass over the
members is enough and the first fault of the text is the one that is reported. -/

namespace LayeredScene

structure Field (α : Type) where
  key : String
  read : Draft → Except Fault α
  write : α → Option Json
  /-- The value of a field that is missing, unless it has to be there. -/
  absent : Option α

namespace Field

variable {α : Type}

def required (key : String) (c : Codec α) : Field α :=
  ⟨key, c.read, fun a => some (c.write a), none⟩

/-- A field that is always written, but may be missing. -/
def defaulted (key : String) (c : Codec α) (absent : α) : Field α :=
  ⟨key, c.read, fun a => some (c.write a), some absent⟩

/-- A field that is left out if there is no value. -/
def optional (key : String) (c : Codec α) : Field (Option α) :=
  ⟨key, c.option.read, fun a => a.map c.write, some none⟩

/-- A map that is left out if it has no entries. -/
def entries (key : String) (c : Codec α) : Field (SortedMap α) :=
  ⟨key, c.sortedMap.read, fun m => if m.isEmpty then none else some (c.sortedMap.write m),
    some .empty⟩

end Field

structure Record (α : Type) where
  keys : List String
  Slots : Type
  blank : Slots
  put : Nat → Draft → Slots → Except Fault Slots
  finish : Slots → Except Fault α
  write : α → List (String × Json)

namespace Record

variable {α β : Type}

def unit : Record Unit where
  keys := []
  Slots := Unit
  blank := ()
  put _ _ _ := .error .mismatch
  finish _ := .ok ()
  write _ := []

/-- Reads the value of one field, which must not have been read before. -/
def putField (f : Field α) (d : Draft) : Option α → Except Fault (Option α)
  | some _ => .error .mismatch
  | none => some <$> f.read d

def finishField (f : Field α) : Option α → Except Fault α
  | some a => .ok a
  | none =>
    match f.absent with
    | some a => .ok a
    | none => .error .mismatch

def cons (f : Field α) (r : Record β) : Record (α × β) where
  keys := f.key :: r.keys
  Slots := Option α × r.Slots
  blank := (none, r.blank)
  put
    | 0, d, s => do return (← putField f d s.1, s.2)
    | k + 1, d, s => do return (s.1, ← r.put k d s.2)
  finish s := do return (← finishField f s.1, ← r.finish s.2)
  write p := (f.write p.1).toList.map (f.key, ·) ++ r.write p.2

def readMembers (r : Record α) :
    List (Option String × Draft) → r.Slots → Except Fault r.Slots
  | [], s => .ok s
  | (none, _) :: _, _ => .error .malformed
  | (some key, d) :: rest, s =>
    match r.keys.idxOf? key with
    | some k =>
      match r.put k d s with
      | .ok s => r.readMembers rest s
      | .error fault => .error fault
    | none =>
      match d.skip with
      | .ok _ => r.readMembers rest s
      | .error fault => .error fault

/-- Reads field values in order, from the field with index `k`; `left` are still to come. -/
def readValues (r : Record α) (ending : Ending) :
    Nat → Nat → List Draft → r.Slots → Except Fault r.Slots
  | _, 0, [], s => do
    ending.checkFull
    return s
  | _, 0, _ :: _, _ => .error .malformed
  | _, _ + 1, [], s => do
    ending.check
    return s
  | k, left + 1, d :: ds, s =>
    match r.put k d s with
    | .ok s => r.readValues ending (k + 1) left ds s
    | .error fault => .error fault

/-- Reads a record from an object or from the list of its field values. -/
def read (r : Record α) : Draft → Except Fault α
  | .object members ending => do
    let s ← r.readMembers members r.blank
    ending.check
    r.finish s
  | .list items ending => do
    let s ← r.readValues ending 0 r.keys.length items r.blank
    r.finish s
  | d => .error d.unfit

/-- The records of a type whose values correspond to the tuples of the fields. -/
def codec (r : Record α) (make : α → β) (unmake : β → α) : Codec β where
  read d := make <$> r.read d
  write b := .object (r.write (unmake b))

end Record

end LayeredScene
