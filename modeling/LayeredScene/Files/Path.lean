import LayeredScene.Text.Blank

/-! # Paths

A path is a text whose segments are separated by slashes.  It starts at the root of all folders if
its first character is a slash, expressly at the working folder if its first segment is `.`, and
tacitly there otherwise.  Apart from that, segments that are empty or `.` are void: they lead
nowhere.

Taking the last segment off keeps the text before it as it is, but for void segments at its end. -/

namespace LayeredScene

structure Path where
  text : String
deriving DecidableEq

namespace Path

/-- The part of a path that says where it starts, and the rest. -/
def cutStart : List Char → List Char × List Char
  | '/' :: rest => (['/'], rest)
  | ['.'] => (['.'], [])
  | '.' :: '/' :: rest => (['.'], '/' :: rest)
  | cs => ([], cs)

/-- The segments between the slashes: always one more than there are slashes. -/
def segments (cs : List Char) : List (List Char) :=
  Text.pieces (· == '/') cs

/-- Does the segment lead nowhere? -/
def isVoid (segment : List Char) : Bool :=
  segment == [] || segment == ['.']

def isUp (segment : List Char) : Bool :=
  segment == ['.', '.']

def trimVoid (segments : List (List Char)) : List (List Char) :=
  (segments.reverse.dropWhile isVoid).reverse

/-- Where a path starts, and its segments up to the last that leads somewhere. -/
def parts (p : Path) : List Char × List (List Char) :=
  let (start, rest) := cutStart p.text.toList
  (start, trimVoid (segments rest))

def ofParts (start : List Char) (segments : List (List Char)) : Path :=
  ⟨String.ofList (start ++ ['/'].intercalate segments)⟩

/-- The name at the end of a path, if it does not end by leading up or nowhere. -/
def fileName? (p : Path) : Option (List Char) :=
  p.parts.2.getLast?.filter (! isUp ·)

/-- The path without its last segment; the root and the empty path have none. -/
def parent? (p : Path) : Option Path :=
  let (start, segments) := p.parts
  if segments.isEmpty then
    if start == ['.'] then some ⟨""⟩ else none
  else some (ofParts start (trimVoid segments.dropLast))

/-- A name up to its last dot.  A name without a dot, or with none but its first character, is all
stem. -/
def stem (name : List Char) : List Char :=
  let before := (name.reverse.dropWhile (· != '.')).tail.reverse
  if before.isEmpty then name else before

def child (folder : Path) (name : String) : Path :=
  let between :=
    match folder.text.toList.getLast? with
    | none | some '/' => ""
    | some _ => "/"
  ⟨folder.text ++ between ++ name⟩

/-- The path with another name at its end, or with the name added if it ends without one. -/
def withFileName (p : Path) (name : String) : Path :=
  match p.fileName? with
  | some _ => (p.parent?.getD p).child name
  | none => p.child name

end Path

end LayeredScene
