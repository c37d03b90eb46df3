/-! # Blank space, words and lines

What separates the words of a line: the characters with the `White_Space` property of the Unicode
standard.  A line ends at a line feed, and a carriage return right before it belongs to the line
end; a carriage return anywhere else is ordinary blank space. -/

namespace LayeredScene.Text

/-- The code points with the `White_Space` property. -/
def blankRanges : List (Nat × Nat) :=
  [(0x09, 0x0D), (0x20, 0x20), (0x85, 0x85), (0xA0, 0xA0), (0x1680, 0x1680), (0x2000, 0x200A),
   (0x2028, 0x2029), (0x202F, 0x202F), (0x205F, 0x205F), (0x3000, 0x3000)]

/-- Does one of the ranges, ends included, hold the character? -/
def inRanges (ranges : List (Nat × Nat)) (c : Char) : Bool :=
  ranges.any fun r => r.1 ≤ c.toNat && c.toNat ≤ r.2

def isBlank (c : Char) : Bool :=
  inRanges blankRanges c

/-- The pieces between the characters that satisfy `sep`: always one more than there are of them. -/
def pieces (sep : Char → Bool) (cs : List Char) : List (List Char) :=
  cs.foldr (fun c acc =>
    if sep c then [] :: acc
    else match acc with
      | [] => [[c]]
      | p :: ps => (c :: p) :: ps) [[]]

def trimChars (cs : List Char) : List Char :=
  ((cs.dropWhile isBlank).reverse.dropWhile isBlank).reverse

def trim (s : String) : String :=
  String.ofList (trimChars s.toList)

/-- The maximal runs of characters that are not blank. -/
def words (s : String) : List String :=
  ((pieces isBlank s.toList).filter (! ·.isEmpty)).map String.ofList

/-- The text between the occurrences of a character: `split '>' "a>b"` is `["a", "b"]`. -/
def split (sep : Char) (s : String) : List String :=
  (pieces (· == sep) s.toList).map String.ofList

/-- A line without the carriage return of its line end. -/
def dropReturn (cs : List Char) : List Char :=
  if cs.getLast? = some '\r' then cs.dropLast else cs

/-- The lines of a text.  The last one may lack its line end; then it keeps a final carriage return,
and if nothing follows the last line feed there is no such line. -/
def lines (s : String) : List String :=
  let ps := pieces (· == '\n') s.toList
  let whole := ps.dropLast.map dropReturn
  let open? := (ps.getLast?.filter (! ·.isEmpty)).toList
  (whole ++ open?).map String.ofList

def occurs (needle : List Char) : List Char → Bool
  | [] => needle.isEmpty
  | c :: cs => needle.isPrefixOf (c :: cs) || occurs needle cs

end LayeredScene.Text
