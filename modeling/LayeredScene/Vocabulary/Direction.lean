import LayeredScene.Triple

/-! # Directions

Words that move a body.  Some are an offset along the axes: `x` points forward, `y` up and `z` to
the left.  The others are motions, which leave the position alone and are only noted. -/

namespace LayeredScene

inductive Direction where
  | vector (axis : Triple Float)
  /-- A motion, by the tag under which it is noted. -/
  | motion (tag : String)

namespace Direction

def table : List (String × Direction) :=
  [("forward", .vector ⟨1, 0, 0⟩),
   ("backward", .vector ⟨-1, 0, 0⟩),
   ("upward", .vector ⟨0, 1, 0⟩),
   ("downward", .vector ⟨0, -1, 0⟩),
   ("leftward", .vector ⟨0, 0, 1⟩),
   ("rightward", .vector ⟨0, 0, -1⟩),
   ("upleft", .vector ⟨0, 1, 1⟩),
   ("upright", .vector ⟨0, 1, -1⟩),
   ("downleft", .vector ⟨0, -1, 1⟩),
   ("downright", .vector ⟨0, -1, -1⟩),
   ("forwardleft", .vector ⟨1, 0, 1⟩),
   ("forwardright", .vector ⟨1, 0, -1⟩),
   ("backwardleft", .vector ⟨-1, 0, 1⟩),
   ("backwardright", .vector ⟨-1, 0, -1⟩),
   ("clockwise", .motion "rotate_cw"),
   ("counterclockwise", .motion "rotate_ccw"),
   ("spiral", .motion "spiral_path"),
   ("twist", .motion "twist_transform"),
   ("curve", .motion "curve_path"),
   ("arc", .motion "arc_path"),
   ("toward", .motion "toward_target"),
   ("away", .motion "away_target"),
   ("around", .motion "around_target"),
   ("through", .motion "through_target")]

def ofWord? (word : String) : Option Direction :=
  table.lookup word

end Direction

end LayeredScene
