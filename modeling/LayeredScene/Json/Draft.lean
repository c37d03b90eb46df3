import LayeredScene.Json.Basic

/-! # What a text says, as far as it can be read

A `Draft` is the tree of a JSON text together with the places where the text goes wrong.  Which of
several faults is reported depends on what the reader looks for: a value that nobody asks for is
only passed over, and then a number may be too large and a string may hold half a surrogate pair.
So the tree keeps a fault where it occurs, and whoever walks through it in the order of the text
meets the one that counts. -/

namespace LayeredScene

/-- Why a text could not be read as a value of the wanted type. -/
inductive Fault where
  | endOfText
  | malformed
  /-- The text is JSON of another type: a wrong kind of value, a member that is missing or given
  twice, a number out of range for its field. -/
  | mismatch
deriving DecidableEq

/-- How the items of a list or the members of an object end. -/
inductive Ending where
  | closed
  /-- With a fault: what it amounts to when one more item or member may be read, when the rest is
  passed over, and when the container is full, so that only the closing bracket may come. -/
  | cut (read skip full : Fault)
deriving DecidableEq

/-- The tree of a JSON text with its faults. -/
inductive Draft where
  | null
  | bool (b : Bool)
  | number (n : Numeral)
  | text (s : String)
  /-- A string that holds half a surrogate pair: it is no text, but can be passed over. -/
  | garbled
  | list (items : List Draft) (ending : Ending)
  /-- A key that is `none` holds half a surrogate pair. -/
  | object (members : List (Option String × Draft)) (ending : Ending)
  /-- A value that breaks off: what it amounts to when it is read, when it is passed over, and when
  the name of a choice is looked for. -/
  | broken (read skip name : Fault)
  /-- A list or object that is nested too deeply to be kept, but can be passed over. -/
  | deep (inner : Draft)

/-- The tree of a whole text, and whether anything but blank space follows the value. -/
structure Document where
  value : Draft
  trailing : Bool

/-- A list or object is too deep if this many, itself included, are open. -/
def depthLimit : Nat := 128

namespace Ending

/-- The fault of an ending when the container is read. -/
def check : Ending → Except Fault Unit
  | .closed => .ok ()
  | .cut read _ _ => .error read

def checkSkipped : Ending → Except Fault Unit
  | .closed => .ok ()
  | .cut _ skip _ => .error skip

def checkFull : Ending → Except Fault Unit
  | .closed => .ok ()
  | .cut _ _ full => .error full

end Ending

namespace Draft

mutual

/-- Passes over a value: the first fault inside it. -/
def skip : Draft → Except Fault Unit
  | .broken _ skipped _ => .error skipped
  | .list items ending => do skipItems items; ending.checkSkipped
  | .object members ending => do skipMembers members; ending.checkSkipped
  | .deep inner => inner.skip
  | _ => .ok ()

def skipItems : List Draft → Except Fault Unit
  | [] => .ok ()
  | x :: xs =>
    match x.skip with
    | .ok _ => skipItems xs
    | .error e => .error e

def skipMembers : List (Option String × Draft) → Except Fault Unit
  | [] => .ok ()
  | (_, x) :: xs =>
    match x.skip with
    | .ok _ => skipMembers xs
    | .error e => .error e

end

mutual

/-- Reads a value of any type, to be looked at later: the first fault inside it. -/
def keep : Draft → Except Fault Unit
  | .number n => if n.toDouble?.isSome then .ok () else .error .malformed
  | .garbled => .error .malformed
  | .broken read _ _ => .error read
  | .list items ending => do keepItems items; ending.check
  | .object members ending => do keepMembers members; ending.check
  | .deep _ => .error .malformed
  | _ => .ok ()

def keepItems : List Draft → Except Fault Unit
  | [] => .ok ()
  | x :: xs =>
    match x.keep with
    | .ok _ => keepItems xs
    | .error e => .error e

def keepMembers : List (Option String × Draft) → Except Fault Unit
  | [] => .ok ()
  | (none, _) :: _ => .error .malformed
  | (some _, x) :: xs =>
    match x.keep with
    | .ok _ => keepMembers xs
    | .error e => .error e

end

/-- The fault of a value that is of another kind than the wanted one. -/
def unfit : Draft → Fault
  | .number n => if n.toDouble?.isSome then .mismatch else .malformed
  | .garbled => .malformed
  | .broken read _ _ => read
  | _ => .mismatch

mutual

def ofJson : Json → Draft
  | .null => .null
  | .bool b => .bool b
  | .number n => .number n
  | .text s => .text s
  | .list items => .list (ofItems items) .closed
  | .object members => .object (ofMembers members) .closed

def ofItems : List Json → List Draft
  | [] => []
  | x :: xs => ofJson x :: ofItems xs

def ofMembers : List (String × Json) → List (Option String × Draft)
  | [] => []
  | (key, x) :: xs => (some key, ofJson x) :: ofMembers xs

end

end Draft

end LayeredScene
