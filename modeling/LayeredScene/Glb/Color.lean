import LayeredScene.Json.Reader
import LayeredScene.Triple

/-! # Colours in hexadecimal

A colour is written as three pairs of hexadecimal digits, after a `#` if one likes.  A pair may also
be a plus sign and one digit. -/

namespace LayeredScene

def hexPair? (high low : Char) : Option Nat := do
  let l ← TextScan.hexValue? low
  if high = '+' then return l
  let h ← TextScan.hexValue? high
  return h * 16 + l

def channelOf (value : Nat) : Float32 :=
  (UInt32.ofNat value).toFloat32 / 255

def hexColor? (hex : String) : Option (Triple Float32) :=
  let cs := hex.toList
  match if cs.head? = some '#' then cs.tail else cs with
  | [r1, r0, g1, g0, b1, b0] => do
    let r ← hexPair? r1 r0
    let g ← hexPair? g1 g0
    let b ← hexPair? b1 b0
    return ⟨channelOf r, channelOf g, channelOf b⟩
  | _ => none

end LayeredScene
