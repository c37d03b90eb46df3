/-! # Single and double width

Changing the width of a floating-point number.  Both directions decode the number and round its
exact value to the other format, nearest first and ties to an even significand, so that widening is
exact and narrowing overflows to infinity. -/

namespace LayeredScene

open Float.Model (UnpackedFloat)

/-- The double nearest to a finite value; zeros, infinities and not-a-number keep their kind. -/
def roundDouble : UnpackedFloat → Float
  | .finite sign mantissa exponent _ =>
    .ofModel (.pack (UnpackedFloat.round .binary64 sign mantissa exponent))
  | other => .ofModel (.pack other)

def roundSingle : UnpackedFloat → Float32
  | .finite sign mantissa exponent _ =>
    .ofModel (.pack (UnpackedFloat.round .binary32 sign mantissa exponent))
  | other => .ofModel (.pack other)

def widen (x : Float32) : Float :=
  roundDouble x.toModel.unpack

def narrow (x : Float) : Float32 :=
  roundSingle x.toModel.unpack

end LayeredScene
