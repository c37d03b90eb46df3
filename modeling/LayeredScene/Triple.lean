/-! # Triples

Three values of one type, one per axis of space. -/

namespace LayeredScene

/-- A value per axis. -/
structure Triple (α : Type) where
  x : α
  y : α
  z : α
deriving DecidableEq, Inhabited

namespace Triple

variable {α β : Type}

def splat (a : α) : Triple α := ⟨a, a, a⟩

def map (f : α → β) (t : Triple α) : Triple β := ⟨f t.x, f t.y, f t.z⟩

def zipWith {γ : Type} (f : α → β → γ) (s : Triple α) (t : Triple β) : Triple γ :=
  ⟨f s.x t.x, f s.y t.y, f s.z t.z⟩

def toList (t : Triple α) : List α := [t.x, t.y, t.z]

def all (p : α → Bool) (t : Triple α) : Bool := p t.x && p t.y && p t.z

end Triple

end LayeredScene
