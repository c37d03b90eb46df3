import LayeredScene.Json.Reader
import LayeredScene.SortedMap
import LayeredScene.Triple

/-! # Values as JSON

A `Codec` says how the values of a type are written as JSON and how they are read back.  Reading
walks through the draft of a text in the order of the text, so that of several faults the first one
is reported. -/

namespace LayeredScene

/-- How the values of a type are read from JSON and written to it. -/
structure Codec (α : Type) where
  read : Draft → Except Fault α
  write : α → Json

namespace Codec

variable {α β : Type}

/-- Reads the value of a whole text, after which only blank space may follow. -/
def ofText (c : Codec α) (text : String) : Except Fault α :=
  let document := Document.read text
  match c.read document.value with
  | .error fault => .error fault
  | .ok a => if document.trailing then .error .malformed else .ok a

def via (c : Codec α) (make : α → β) (unmake : β → α) : Codec β where
  read d := make <$> c.read d
  write b := c.write (unmake b)

def text : Codec String where
  read
    | .text s => .ok s
    | d => .error d.unfit
  write := .text

def bool : Codec Bool where
  read
    | .bool b => .ok b
    | d => .error d.unfit
  write := .bool

def below (bound : Nat) : Codec Nat where
  read
    | .number n =>
      match n.toNat? with
      | some k => if k < bound then .ok k else .error .mismatch
      | none => .error (Draft.number n).unfit
    | d => .error d.unfit
  write := .nat

def count : Codec Nat := below UInt64.size

def word32 : Codec UInt32 := (below UInt32.size).via UInt32.ofNat UInt32.toNat

def word64 : Codec UInt64 := (below UInt64.size).via UInt64.ofNat UInt64.toNat

def double : Codec Float where
  read
    | .number n =>
      match n.toDouble? with
      | some x => .ok x
      | none => .error .malformed
    | d => .error d.unfit
  write := .double

/-- Singles.  A number that only a double can hold becomes infinite. -/
def single : Codec Float32 where
  read
    | .number n =>
      match n.toSingle? with
      | some x => .ok x
      | none => .error .malformed
    | d => .error d.unfit
  write := .single

def option (c : Codec α) : Codec (Option α) where
  read
    | .null => .ok none
    | d => some <$> c.read d
  write
    | none => .null
    | some a => c.write a

def readItems (c : Codec α) : List Draft → List α → Except Fault (List α)
  | [], done => .ok done.reverse
  | d :: ds, done =>
    match c.read d with
    | .ok a => c.readItems ds (a :: done)
    | .error fault => .error fault

def list (c : Codec α) : Codec (List α) where
  read
    | .list items ending => do
      let read ← c.readItems items []
      ending.check
      return read
    | d => .error d.unfit
  write items := .list (items.map c.write)

/-- Triples, as lists of exactly three values. -/
def triple (c : Codec α) : Codec (Triple α) where
  read
    | .list items ending => do
      match ← c.readItems (items.take 3) [] with
      | [x, y, z] =>
        if 3 < items.length then throw .malformed
        ending.checkFull
        return ⟨x, y, z⟩
      | _ =>
        ending.check
        throw .mismatch
    | d => .error d.unfit
  write t := .list (t.toList.map c.write)

def readMembers (c : Codec α) (insert : β → String → α → β) :
    List (Option String × Draft) → β → Except Fault β
  | [], done => .ok done
  | (none, _) :: _, _ => .error .malformed
  | (some key, d) :: ds, done =>
    match c.read d with
    | .ok a => c.readMembers insert ds (insert done key a)
    | .error fault => .error fault

def members (c : Codec α) (empty : β) (insert : β → String → α → β)
    (entries : β → List (String × α)) : Codec β where
  read
    | .object members ending => do
      let read ← c.readMembers insert members empty
      ending.check
      return read
    | d => .error d.unfit
  write b := .object ((entries b).map fun e => (e.1, c.write e.2))

def sortedMap (c : Codec α) : Codec (SortedMap α) :=
  c.members .empty .insert SortedMap.entries

def named (names : List (String × α)) (name : String) : Except Fault α :=
  match names.lookup name with
  | some a => .ok a
  | none => .error .mismatch

/-- Reads one of several names.  The name may also be the only key of an object, with `null` under
it. -/
def readChoice (names : List (String × α)) : Draft → Except Fault α
  | .text s => named names s
  | .broken _ _ name => .error name
  | .object [] ending => do
    ending.check
    .error .malformed
  | .object ((none, _) :: _) _ => .error .malformed
  | .object ((some key, d) :: rest) ending => do
    let a ← named names key
    match d with
    | .null => pure ()
    | d => throw d.unfit
    if !rest.isEmpty then throw .malformed
    ending.checkFull
    return a
  | _ => .error .malformed

def choice (names : List (String × α)) (name : α → String) : Codec α where
  read := readChoice names
  write a := .text (name a)

end Codec

end LayeredScene
