import LayeredScene.Files.Path

/-! # Stores of files

A store holds files and folders, each at its place.  A path leads to a place by one step per
segment, and every step starts from a folder.  A path that begins with a slash starts at the root,
any other at the working folder.  There are no links: what can be said about a store is what stands
at each place (`Store.find?`).
-/

namespace LayeredScene

inductive Entry where
  | folder
  | file (bytes : List UInt8)
deriving DecidableEq

/-- The names on the way from the root; the root itself is the empty place. -/
abbrev Place := List String

structure Store where
  entries : List (Place × Entry) := []
  /-- The folder that relative paths start at. -/
  working : Place := ["home", "user"]
  /-- The most bytes that a name may have. -/
  nameLimit : Nat := 255
  /-- The most bytes that a path may have. -/
  pathLimit : Nat := 4095
deriving DecidableEq

namespace Store

/-- What stands at a place.  The working folder and the folders above it are always there. -/
def find? (s : Store) (place : Place) : Option Entry :=
  if place <+: s.working then some .folder else s.entries.lookup place

def isFolder (s : Store) (place : Place) : Bool :=
  s.find? place == some .folder

/-- Puts an entry at a place; what stood there gives way. -/
def put (s : Store) (place : Place) (entry : Entry) : Store :=
  { s with entries := (place, entry) :: s.entries.filter (·.1 != place) }

theorem find?_put_self (s : Store) {place : Place} (entry : Entry) (h : ¬ place <+: s.working) :
    (s.put place entry).find? place = some entry := by
  simp [find?, put, h]

theorem find?_put_of_ne (s : Store) {place other : Place} (entry : Entry) (h : other ≠ place) :
    (s.put place entry).find? other = s.find? other := by
  have filtered : ∀ entries : List (Place × Entry),
      (entries.filter (·.1 != place)).lookup other = entries.lookup other := by
    intro entries
    induction entries with
    | nil => rfl
    | cons e rest ih =>
      obtain ⟨p, x⟩ := e
      by_cases hp : p = place
      · subst hp
        have : (other == p) = false := by simpa using h
        simp [List.lookup_cons, ih, this]
      · simp [List.lookup_cons, hp, ih]
  have : (other == place) = false := by simpa using h
  simp [find?, put, List.lookup_cons, this, filtered]

/-- One step from a folder.  Above the root there is only the root. -/
def step (s : Store) (place : Place) (segment : List Char) : Option Place :=
  if !s.isFolder place then none
  else if Path.isVoid segment then some place
  else if Path.isUp segment then some place.dropLast
  else
    let name := String.ofList segment
    if name.utf8ByteSize ≤ s.nameLimit then some (place ++ [name]) else none

/-- The place that a path starts at. -/
def start (s : Store) (p : Path) : Place :=
  if p.text.toList.head? == some '/' then [] else s.working

/-- The segments of a path that can be followed. -/
def route? (s : Store) (p : Path) : Option (List (List Char)) :=
  let cs := p.text.toList
  if cs.isEmpty || cs.contains '\x00' || s.pathLimit < p.text.utf8ByteSize then none
  else some (Path.segments cs)

@[simp]
theorem start_put (s : Store) (place : Place) (entry : Entry) (p : Path) :
    (s.put place entry).start p = s.start p := rfl

@[simp]
theorem route?_put (s : Store) (place : Place) (entry : Entry) (p : Path) :
    (s.put place entry).route? p = s.route? p := rfl

/-- The place that a path leads to; whether anything stands there is another matter. -/
def resolve (s : Store) (p : Path) : Option Place :=
  (s.route? p).bind fun route => route.foldlM s.step (s.start p)

def read (s : Store) (p : Path) : Option (List UInt8) :=
  match (s.resolve p).bind s.find? with
  | some (.file bytes) => some bytes
  | _ => none

/-- Writes a file, new or in place of another one.  Its folder has to be there. -/
def write (s : Store) (p : Path) (bytes : List UInt8) : Option Store :=
  match s.resolve p with
  | none => none
  | some place => if s.isFolder place then none else some (s.put place (.file bytes))

/-- Makes the folders on a way where there is nothing, and says whether all of it leads through
folders. -/
def makeFoldersFrom (s : Store) (place : Place) : List (List Char) → Store × Bool
  | [] => (s, s.isFolder place)
  | segment :: rest =>
    match s.step place segment with
    | none => (s, false)
    | some next =>
      makeFoldersFrom (if (s.find? next).isNone then s.put next .folder else s) next rest

/-- Makes the folder that a path leads to, with all folders above it.  The empty path needs none. -/
def makeFolders (s : Store) (p : Path) : Store × Bool :=
  if p.text.isEmpty then (s, true)
  else
    match s.route? p with
    | none => (s, false)
    | some route => s.makeFoldersFrom (s.start p) route

/-- The files below the working folder, with the paths that lead from there to them. -/
def files (s : Store) : List (Path × List UInt8) :=
  s.entries.filterMap fun e =>
    match e.2 with
    | .folder => none
    | .file bytes =>
      if s.working <+: e.1 then
        some (⟨"/".intercalate (e.1.drop s.working.length)⟩, bytes)
      else none

end Store

end LayeredScene
