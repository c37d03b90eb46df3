import LayeredScene.Json.Draft

/-! # Reading JSON text

The text is read by a machine that takes one character at a time: `Scan.step` says what a character
does, `Scan.finish` what the end of the text does, and `Document.read` runs the machine over the
whole text.  The containers that are still open are a stack of frames, and the mode says what is
being read.  At the first fault the machine wraps the frames around it and reads no further. -/

namespace LayeredScene

/-! ## Quoted strings -/

inductive TextPhase where
  | plain
  | escape
  /-- After `\u`: how many bytes of the four digits are read, their value unless one is no digit,
  and the first half of a surrogate pair if one came before. -/
  | hex (bytes : Nat) (value : Option Nat) (lead : Option Nat)
  | lead (high : Nat)
  | leadEscape (high : Nat)

/-- A quoted string while it is read, its characters in reverse. -/
structure TextScan where
  chars : List Char
  garbled : Bool
  phase : TextPhase

inductive TextStep where
  | more (scan : TextScan)
  | done (s : Option String)
  | broken

namespace TextScan

def start : TextScan := ⟨[], false, .plain⟩

def push (t : TextScan) (c : Char) : TextStep :=
  .more { t with chars := c :: t.chars, phase := .plain }

/-- The string with half a surrogate pair in it. -/
def garble (t : TextScan) : TextScan :=
  { t with garbled := true, phase := .plain }

def plain (t : TextScan) (c : Char) : TextStep :=
  if c = '"' then .done (if t.garbled then none else some (String.ofList t.chars.reverse))
  else if c = '\\' then .more { t with phase := .escape }
  else if c.toNat < 0x20 then .broken
  else t.push c

def escaped (t : TextScan) (c : Char) : TextStep :=
  match c with
  | '"' | '\\' | '/' => t.push c
  | 'b' => t.push '\x08'
  | 'f' => t.push '\x0c'
  | 'n' => t.push '\n'
  | 'r' => t.push '\r'
  | 't' => t.push '\t'
  | 'u' => .more { t with phase := .hex 0 (some 0) none }
  | _ => .broken

/-- What the four digits after `\u` mean.  Half a surrogate pair that stays alone garbles the
string. -/
def unit (t : TextScan) (value : Nat) : Option Nat → TextStep
  | some high =>
    if 0xDC00 ≤ value ∧ value < 0xE000 then
      t.push (Char.ofNat (0x10000 + (high - 0xD800) * 0x400 + (value - 0xDC00)))
    else .more t.garble
  | none =>
    if 0xD800 ≤ value ∧ value < 0xDC00 then .more { t with phase := .lead value }
    else if 0xDC00 ≤ value ∧ value < 0xE000 then .more t.garble
    else t.push (Char.ofNat value)

def hexValue? (c : Char) : Option Nat :=
  if '0' ≤ c ∧ c ≤ '9' then some (c.toNat - 48)
  else if 'a' ≤ c ∧ c ≤ 'f' then some (c.toNat - 87)
  else if 'A' ≤ c ∧ c ≤ 'F' then some (c.toNat - 55)
  else none

def step (t : TextScan) (c : Char) : TextStep :=
  match t.phase with
  | .plain => t.plain c
  | .escape => t.escaped c
  | .hex bytes value lead =>
    let value := do return (← value) * 16 + (← hexValue? c)
    if bytes + c.utf8Size < 4 then .more { t with phase := .hex (bytes + c.utf8Size) value lead }
    else
      match value with
      | some v => t.unit v lead
      | none => .broken
  | .lead high =>
    if c = '\\' then .more { t with phase := .leadEscape high } else t.garble.plain c
  | .leadEscape high =>
    if c = 'u' then .more { t with phase := .hex 0 (some 0) (some high) } else t.garble.escaped c

/-- What a fault inside the string amounts to when the string is read: a garbled one was at fault
before. -/
def readFault (t : TextScan) (fault : Fault) : Fault :=
  if t.garbled then .malformed else fault

end TextScan

/-! ## Numbers -/

inductive NumberPhase where
  | minus
  | zero
  | whole
  | point
  | fraction
  | mark
  | markSign
  | exponent

/-- A number while it is read, its fraction digits in reverse. -/
structure NumberScan where
  negative : Bool
  whole : Nat
  fraction : List (Fin 10)
  down : Bool
  exponent : Nat
  phase : NumberPhase

inductive NumberStep where
  | more (scan : NumberScan)
  /-- The number ended before the character. -/
  | ended
  | broken

namespace NumberScan

def minus : NumberScan := ⟨true, 0, [], false, 0, .minus⟩

def digit? (c : Char) : Option (Fin 10) :=
  if '0' ≤ c ∧ c ≤ '9' then some (lastDigit (c.toNat - 48)) else none

/-- The first digit of the whole part: nothing may follow a zero but a point or an exponent. -/
def first (negative : Bool) (d : Fin 10) : NumberScan :=
  ⟨negative, d.val, [], false, 0, if d.val = 0 then .zero else .whole⟩

def pushExponent (n : NumberScan) (d : Fin 10) : NumberScan :=
  { n with exponent := n.exponent * 10 + d.val, phase := .exponent }

/-- What a character that is no digit does where the number may end. -/
def afterDigits (n : NumberScan) (c : Char) (point : Bool) : NumberStep :=
  if c = '.' ∧ point then .more { n with phase := .point }
  else if c = 'e' ∨ c = 'E' then .more { n with phase := .mark }
  else .ended

def step (n : NumberScan) (c : Char) : NumberStep :=
  match n.phase, digit? c with
  | .minus, some d => .more (first n.negative d)
  | .minus, none => .broken
  | .zero, some _ => .broken
  | .zero, none => n.afterDigits c true
  | .whole, some d => .more { n with whole := n.whole * 10 + d.val }
  | .whole, none => n.afterDigits c true
  | .point, some d => .more { n with fraction := [d], phase := .fraction }
  | .point, none => .broken
  | .fraction, some d => .more { n with fraction := d :: n.fraction }
  | .fraction, none => n.afterDigits c false
  | .mark, some d => .more (n.pushExponent d)
  | .mark, none =>
    if c = '+' then .more { n with phase := .markSign }
    else if c = '-' then .more { n with down := true, phase := .markSign }
    else .broken
  | .markSign, some d => .more (n.pushExponent d)
  | .markSign, none => .broken
  | .exponent, some d => .more (n.pushExponent d)
  | .exponent, none => .ended

def complete (n : NumberScan) : Bool :=
  match n.phase with
  | .zero | .whole | .fraction | .exponent => true
  | _ => false

def numeral (n : NumberScan) : Numeral :=
  { negative := n.negative
    whole := n.whole
    fraction := n.fraction.reverse
    exponent :=
      match n.phase with
      | .exponent => some (if n.down then -(n.exponent : Int) else n.exponent)
      | _ => none }

end NumberScan

/-! ## Values -/

/-- A container that is still open, with what came before, in reverse. -/
inductive Frame where
  | inList (before : List Draft)
  | inObject (before : List (Option String × Draft)) (key : Option String)

inductive Mode where
  /-- A value, or the end of a list that has just been opened. -/
  | value
  | key (before : List (Option String × Draft))
  | colon (before : List (Option String × Draft)) (key : Option String)
  | quoted (scan : TextScan)
  | quotedKey (before : List (Option String × Draft)) (scan : TextScan)
  | number (scan : NumberScan)
  /-- A word of which these letters are still to come. -/
  | word (left : List Char) (value : Draft)
  | after (value : Draft)
  | over (document : Document)

/-- The state of the machine: the open containers, innermost first, and the mode. -/
structure Scan where
  frames : List Frame
  mode : Mode

namespace Scan

/-- A container inside `depth` others. -/
def enclose (depth : Nat) (d : Draft) : Draft :=
  if depth + 1 < depthLimit then d else .deep d

/-- The document of a text that cannot be read beyond a value, given the open containers. -/
def abandon : List Frame → Draft → Document
  | [], d => ⟨d, false⟩
  | .inList before :: rest, d =>
    abandon rest (enclose rest.length (.list (d :: before).reverse .closed))
  | .inObject before key :: rest, d =>
    abandon rest (enclose rest.length (.object ((key, d) :: before).reverse .closed))

/-- The document of a text with a value that is at fault, however it is looked at. -/
def breakOff (frames : List Frame) (fault : Fault) : Document :=
  abandon frames (.broken fault fault fault)

/-- What a fault behind the items or members of a full container amounts to: if a comma stands
before it, that comma is the fault. -/
def faultBehind (comma : Bool) (fault : Fault) : Fault :=
  if comma then .malformed else fault

/-- The document of a text with a list that is cut; `comma` says whether a comma stands behind the
items. -/
def cutList (before : List Draft) (rest : List Frame) (fault : Fault) (comma : Bool) : Document :=
  abandon rest (enclose rest.length
    (.list before.reverse (.cut fault fault (faultBehind comma fault))))

/-- The document of a text with an object that is cut; `comma` says whether a comma stands behind
the members. -/
def cutObject (before : List (Option String × Draft)) (rest : List Frame) (read skip : Fault)
    (comma : Bool) : Document :=
  abandon rest (enclose rest.length
    (.object before.reverse (.cut read skip (faultBehind comma read))))

def halt (document : Document) : Scan :=
  ⟨[], .over document⟩

/-- Is the character blank space between the parts of a JSON text? -/
def isSpace (c : Char) : Bool :=
  c == ' ' || c == '\n' || c == '\t' || c == '\r'

def opening (frames : List Frame) (c : Char) : Scan :=
  match c with
  | '"' => ⟨frames, .quoted .start⟩
  | '[' => ⟨.inList [] :: frames, .value⟩
  | '{' => ⟨frames, .key []⟩
  | 'n' => ⟨frames, .word ['u', 'l', 'l'] .null⟩
  | 't' => ⟨frames, .word ['r', 'u', 'e'] (.bool true)⟩
  | 'f' => ⟨frames, .word ['a', 'l', 's', 'e'] (.bool false)⟩
  | '-' => ⟨frames, .number .minus⟩
  | _ =>
    match NumberScan.digit? c with
    | some d => ⟨frames, .number (.first false d)⟩
    | none => halt (breakOff frames .malformed)

/-- What a character where a value is wanted does. -/
def want (frames : List Frame) (c : Char) : Scan :=
  if isSpace c then ⟨frames, .value⟩
  else
    match frames with
    | .inList before :: rest =>
      if c = ']' then
        if before.isEmpty then ⟨rest, .after (enclose rest.length (.list [] .closed))⟩
        else halt (cutList before rest .malformed true)
      else opening frames c
    | _ => opening frames c

def follow (frames : List Frame) (d : Draft) (c : Char) : Scan :=
  if isSpace c then ⟨frames, .after d⟩
  else
    match frames with
    | [] => halt ⟨d, true⟩
    | .inList before :: rest =>
      if c = ',' then ⟨.inList (d :: before) :: rest, .value⟩
      else if c = ']' then
        ⟨rest, .after (enclose rest.length (.list (d :: before).reverse .closed))⟩
      else halt (cutList (d :: before) rest .malformed false)
    | .inObject before key :: rest =>
      if c = ',' then ⟨rest, .key ((key, d) :: before)⟩
      else if c = '}' then
        ⟨rest, .after (enclose rest.length (.object ((key, d) :: before).reverse .closed))⟩
      else halt (cutObject ((key, d) :: before) rest .malformed .malformed false)

def wantKey (frames : List Frame) (before : List (Option String × Draft)) (c : Char) : Scan :=
  if isSpace c then ⟨frames, .key before⟩
  else if c = '"' then ⟨frames, .quotedKey before .start⟩
  else if c = '}' ∧ before.isEmpty then
    ⟨frames, .after (enclose frames.length (.object [] .closed))⟩
  else halt (cutObject before frames .malformed .malformed (!before.isEmpty))

def step (s : Scan) (c : Char) : Scan :=
  match s.mode with
  | .value => want s.frames c
  | .key before => wantKey s.frames before c
  | .colon before key =>
    if isSpace c then s
    else if c = ':' then ⟨.inObject before key :: s.frames, .value⟩
    else halt (breakOff (.inObject before key :: s.frames) .malformed)
  | .quoted t =>
    match t.step c with
    | .more t => ⟨s.frames, .quoted t⟩
    | .done (some text) => ⟨s.frames, .after (.text text)⟩
    | .done none => ⟨s.frames, .after .garbled⟩
    | .broken => halt (breakOff s.frames .malformed)
  | .quotedKey before t =>
    match t.step c with
    | .more t => ⟨s.frames, .quotedKey before t⟩
    | .done key => ⟨s.frames, .colon before key⟩
    | .broken => halt (cutObject before s.frames .malformed .malformed (!before.isEmpty))
  | .number n =>
    match n.step c with
    | .more n => ⟨s.frames, .number n⟩
    | .ended => follow s.frames (.number n.numeral) c
    | .broken => halt (breakOff s.frames .malformed)
  | .word [] value => follow s.frames value c
  | .word (l :: ls) value =>
    if c = l then (if ls.isEmpty then ⟨s.frames, .after value⟩ else ⟨s.frames, .word ls value⟩)
    else halt (breakOff s.frames .malformed)
  | .after d => follow s.frames d c
  | .over _ => s

/-- The document of a text that ends after a value, given the open containers. -/
def close (frames : List Frame) (d : Draft) : Document :=
  match frames with
  | [] => ⟨d, false⟩
  | .inList before :: rest => cutList (d :: before) rest .endOfText false
  | .inObject before key :: rest =>
    cutObject ((key, d) :: before) rest .endOfText .endOfText false

def finish (s : Scan) : Document :=
  match s.mode with
  | .value =>
    match s.frames with
    | .inList before :: rest => cutList before rest .endOfText (!before.isEmpty)
    | _ => breakOff s.frames .endOfText
  | .key before => cutObject before s.frames .endOfText .endOfText (!before.isEmpty)
  | .colon before key => breakOff (.inObject before key :: s.frames) .endOfText
  | .quoted t =>
    let fault := t.readFault .endOfText
    abandon s.frames (.broken fault .endOfText fault)
  | .quotedKey before t =>
    cutObject before s.frames (t.readFault .endOfText) .endOfText (!before.isEmpty)
  | .number n =>
    if n.complete then close s.frames (.number n.numeral)
    else abandon s.frames (.broken .endOfText .malformed .malformed)
  | .word [] value => close s.frames value
  | .word _ _ => abandon s.frames (.broken .endOfText .endOfText .malformed)
  | .after d => close s.frames d
  | .over document => document

def start : Scan := ⟨[], .value⟩

end Scan

def Document.read (text : String) : Document :=
  (text.toList.foldl Scan.step .start).finish

end LayeredScene
