import LayeredScene.Statement.Command

/-! # What commands leave alone

A command says something of a body, and nothing of the object and the layer that the body is in.
-/

namespace LayeredScene

namespace Statement

/-- What no command changes, a run of commands does not change either. -/
theorem foldl_apply_eq {α : Type} {f : Statement → α} (kept : ∀ s c, f (s.apply c) = f s)
    (commands : List Command) (s : Statement) : f (commands.foldl apply s) = f s := by
  induction commands generalizing s with
  | nil => rfl
  | cons c commands ih => rw [List.foldl_cons, ih, kept]

theorem objectType_apply (s : Statement) (c : Command) : (s.apply c).objectType = s.objectType := by
  cases c with
  | move axis distance => cases distance <;> rfl
  | _ => rfl

theorem layer_apply (s : Statement) (c : Command) : (s.apply c).layer = s.layer := by
  cases c with
  | move axis distance => cases distance <;> rfl
  | _ => rfl

theorem objectType_foldl_apply (commands : List Command) (s : Statement) :
    (commands.foldl apply s).objectType = s.objectType :=
  foldl_apply_eq objectType_apply commands s

theorem layer_foldl_apply (commands : List Command) (s : Statement) :
    (commands.foldl apply s).layer = s.layer :=
  foldl_apply_eq layer_apply commands s

end Statement

end LayeredScene
