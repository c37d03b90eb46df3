import LayeredScene.Json.Numeral

/-! # JSON values and their text

A `Json` value is what gets written: objects keep the order of their members.  The text comes in two
layouts.  The compact one has no blank space at all.  The pretty one puts every item and member on a
line of its own, indented by two spaces per level, and writes empty lists and objects closed up. -/

namespace LayeredScene

/-- A JSON value.  The members of an object are in the order in which they are written. -/
inductive Json where
  | null
  | bool (b : Bool)
  | number (n : Numeral)
  | text (s : String)
  | list (items : List Json)
  | object (members : List (String × Json))

namespace Json

def nat (n : Nat) : Json :=
  .number (.ofNat n)

/-- A double as a number; what is not finite becomes `null`. -/
def double (x : Float) : Json :=
  ((Numeral.ofDouble? x).map .number).getD .null

def single (x : Float32) : Json :=
  ((Numeral.ofSingle? x).map .number).getD .null

/-! ## Strings -/

/-- A digit of a number below 16, in lower case. -/
def hexDigit (n : Nat) : Char :=
  if n < 10 then Char.ofNat (48 + n) else Char.ofNat (87 + n)

/-- A character inside a quoted string.  Quotes, backslashes and control characters are escaped. -/
def escape (c : Char) : List Char :=
  if c = '"' then ['\\', '"']
  else if c = '\\' then ['\\', '\\']
  else if c = '\n' then ['\\', 'n']
  else if c = '\r' then ['\\', 'r']
  else if c = '\t' then ['\\', 't']
  else if c = '\x08' then ['\\', 'b']
  else if c = '\x0c' then ['\\', 'f']
  else if c.toNat < 0x20 then
    ['\\', 'u', '0', '0', hexDigit (c.toNat / 16), hexDigit (c.toNat % 16)]
  else [c]

def quote (s : String) : List Char :=
  '"' :: (s.toList.flatMap escape ++ ['"'])

/-! ## Layouts

Text is collected in reverse, so that writing a long list takes constant stack. -/

inductive Layout where
  | compact
  | pretty
deriving DecidableEq

def Layout.ofPretty (pretty : Bool) : Layout :=
  if pretty then .pretty else .compact

/-- Starts a new line at a depth, if the layout has lines. -/
def Layout.gap (layout : Layout) (depth : Nat) (out : List Char) : List Char :=
  match layout with
  | .compact => out
  | .pretty => List.replicate (2 * depth) ' ' ++ '\n' :: out

def Layout.colon : Layout → List Char
  | .compact => [':']
  | .pretty => [':', ' ']

mutual

/-- Writes a value that stands at a depth behind the text written so far, which is reversed. -/
def pour (layout : Layout) : Json → Nat → List Char → List Char
  | .null, _, out => "null".toList.reverseAux out
  | .bool b, _, out => (if b then "true" else "false").toList.reverseAux out
  | .number n, _, out => n.chars.reverseAux out
  | .text s, _, out => (quote s).reverseAux out
  | .list items, depth, out =>
    if items.isEmpty then ']' :: '[' :: out
    else ']' :: layout.gap depth (pourItems layout items depth true ('[' :: out))
  | .object members, depth, out =>
    if members.isEmpty then '}' :: '{' :: out
    else '}' :: layout.gap depth (pourMembers layout members depth true ('{' :: out))

def pourItems (layout : Layout) : List Json → Nat → Bool → List Char → List Char
  | [], _, _, out => out
  | x :: xs, depth, first, out =>
    let out := if first then out else ',' :: out
    pourItems layout xs depth false (pour layout x (depth + 1) (layout.gap (depth + 1) out))

def pourMembers (layout : Layout) :
    List (String × Json) → Nat → Bool → List Char → List Char
  | [], _, _, out => out
  | (key, x) :: xs, depth, first, out =>
    let out := if first then out else ',' :: out
    let out := layout.colon.reverseAux ((quote key).reverseAux (layout.gap (depth + 1) out))
    pourMembers layout xs depth false (pour layout x (depth + 1) out)

end

def render (layout : Layout) (j : Json) : String :=
  String.ofList (pour layout j 0 []).reverse

def compact (j : Json) : String :=
  j.render .compact

def pretty (j : Json) : String :=
  j.render .pretty

end Json

end LayeredScene
