import LayeredScene.Statement.Json
import LayeredScene.Proofs.Json.Codecs

/-! # Statements keep through their JSON

What is left out of a written statement is what a missing field is read as: an optional property of
the material that has no value, and the traits or the details if there are none.  A noted value is
written under its kind, and the kind says how it is read.
-/

open LayeredScene.Codec (keeps_text keeps_word32 keeps_single keeps_double keeps_triple)
open LayeredScene.Field (keeps_required keeps_optional keeps_entries)
open LayeredScene.Record (keeps_unit)

namespace LayeredScene

/-! ## The numbers of a statement -/

/-- All numbers of a material: its properties and its traits. -/
def Material.singles (m : Material) : List Float32 :=
  m.roughness :: m.metalness :: (m.transmission.toList ++ m.subsurface.toList ++
    m.hardness.toList ++ m.traits.entries.map (·.2))

def Detail.doubles : Detail → List Float
  | .length meters => [meters]
  | _ => []

/-- All double-width numbers of a statement, those that are noted among them. -/
def Statement.doubles (s : Statement) : List Float :=
  s.position.toList ++ s.size.toList ++ s.rotation.toList ++
    s.details.entries.flatMap (·.2.doubles)

/-! ## Shapes and materials -/

theorem Shape.keeps (s : Shape) : codec.Keeps 0 s :=
  Codec.keeps_choice (by cases s <;> rfl)

theorem Material.keeps {m : Material} (singles : ∀ x ∈ m.singles, PrintsSingle x) :
    codec.Keeps 2 m := by
  simp only [Material.singles, List.mem_cons, List.mem_append, Option.mem_toList, List.mem_map,
    or_imp, forall_and, forall_eq, forall_exists_index, and_imp] at singles
  obtain ⟨roughness, metalness, ⟨⟨transmission, subsurface⟩, hardness⟩, traits⟩ := singles
  have property {value : Option Float32} (key : String) (printed : ∀ x ∈ value, PrintsSingle x) :
      (Field.optional key .single).Keeps 0 value :=
    keeps_optional key nofun fun x hx => keeps_single (printed x hx)
  exact Record.Keeps.codec (by decide) rfl
    (.cons (keeps_required _ (keeps_text m.name)) <|
     .cons (keeps_required _ (keeps_text m.color)) <|
     .cons (keeps_required _ (keeps_single roughness)) <|
     .cons (keeps_required _ (keeps_single metalness)) <|
     .cons (property _ transmission) <|
     .cons (property _ subsurface) <|
     .cons (property _ hardness) <|
     .cons (keeps_entries _ fun e he => keeps_single (traits _ e he rfl)) keeps_unit)

/-! ## Details -/

namespace Detail

theorem named_name (kind : Kind) : Codec.named Kind.names kind.name = .ok kind := by
  cases kind <;> rfl

/-- The kind is written first, so that the value behind it can be read at once. -/
theorem read_tagged {kind : Kind} {value : Json} {d : Detail}
    (read : readAs (.ofJson value) kind = .ok d) :
    codec.read (.ofJson (tagged kind value)) = .ok d := by
  have first : skipOthers (Draft.ofMembers [("kind", .text kind.name), ("value", value)]) =
      .ok (some (.kind, .text kind.name, Draft.ofMembers [("value", value)])) := rfl
  have second : skipOthers (Draft.ofMembers [("value", value)]) =
      .ok (some (.value, .ofJson value, [])) := rfl
  have kindRead : Codec.readChoice Kind.names (.text kind.name) = .ok kind := named_name kind
  show readObject (Draft.ofMembers [("kind", .text kind.name), ("value", value)]) .closed = .ok d
  simp only [readObject, bind, Except.bind, first, kindRead, second, read]
  rfl

variable {α : Type} {c : Codec α} {kind : Kind} {make : α → Detail} {a : α}

theorem keeps_tagged (written : codec.write (make a) = tagged kind (c.write a))
    (reads : ∀ d, readAs d kind = make <$> c.read d) (kept : c.Keeps 0 a) :
    codec.Keeps 1 (make a) where
  read := by
    rw [written]
    refine read_tagged ?_
    rw [reads, kept.read]
    rfl
  nesting := by
    rw [written]
    refine Nat.succ_le_succ (Json.nestingMembers_le fun m hm => ?_)
    rcases List.mem_pair.mp hm with rfl | rfl
    · exact Nat.le_refl 0
    · exact kept.nesting

theorem keeps {d : Detail} (doubles : ∀ x ∈ d.doubles, PrintsDouble x) : codec.Keeps 1 d := by
  cases d with
  | length meters =>
    have printed : PrintsDouble meters := doubles meters List.mem_cons_self
    exact keeps_tagged rfl (fun _ => rfl) (keeps_double printed)
  | count n => exact keeps_tagged rfl (fun _ => rfl) (keeps_word32 n)
  | reference name => exact keeps_tagged rfl (fun _ => rfl) (keeps_text name)
  | text s => exact keeps_tagged rfl (fun _ => rfl) (keeps_text s)

end Detail

/-! ## Statements -/

theorem Statement.keeps {s : Statement} (singles : ∀ x ∈ s.material.singles, PrintsSingle x)
    (doubles : ∀ x ∈ s.doubles, PrintsDouble x) : codec.Keeps 3 s := by
  simp only [Statement.doubles, List.mem_append, List.mem_flatMap, or_imp, forall_and,
    forall_exists_index, and_imp] at doubles
  obtain ⟨⟨⟨position, size⟩, rotation⟩, details⟩ := doubles
  exact Record.Keeps.codec (by decide) rfl
    (.cons (keeps_required _ (keeps_text s.objectType)) <|
     .cons (keeps_required _ (keeps_text s.layer)) <|
     .cons (keeps_required _ (Shape.keeps s.shape)) <|
     .cons (keeps_required _ (keeps_triple position)) <|
     .cons (keeps_required _ (keeps_triple size)) <|
     .cons (keeps_required _ (keeps_triple rotation)) <|
     .cons (keeps_required _ (Material.keeps singles)) <|
     .cons (keeps_required _ (.list fun word _ => keeps_text word)) <|
     .cons (keeps_entries _ fun e he => Detail.keeps fun x hx => details x e he hx) keeps_unit)

end LayeredScene
