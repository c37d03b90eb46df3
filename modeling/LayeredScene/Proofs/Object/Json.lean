import LayeredScene.Object.Json
import LayeredScene.Proofs.Statement.Json

/-! # Objects are read back from their JSON text

The layers are written as an object in their order, and reading sets one after the other: a name
that is new makes a layer at the end, and so the layers come back in the same order.  A name that
came before would replace the statements of its layer, so the names have to be distinct.
-/

open LayeredScene.Codec (keeps_text keeps_bool keeps_count)
open LayeredScene.Field (keeps_required keeps_defaulted)
open LayeredScene.Record (keeps_unit)

namespace LayeredScene

theorem Precision.keeps (p : Precision) : codec.Keeps 0 p :=
  Codec.keeps_choice (by cases p <;> rfl)

/-! ## Layers -/

namespace Layer

theorem set_of_new {layers : List Layer} {name : String} (new : name ∉ layers.map (·.name))
    (statements : List Statement) :
    set layers name statements = layers ++ [⟨name, statements⟩] := by
  induction layers with
  | nil => rfl
  | cons l layers ih =>
    rw [List.map_cons, List.mem_cons, not_or] at new
    rw [set, if_neg (Ne.symm new.1), ih new.2, List.cons_append]

/-- Layers of new names come behind the others, in their order. -/
theorem foldl_set {before layers : List Layer}
    (distinct : ((before ++ layers).map (·.name)).Nodup) :
    (layers.map fun l => (l.name, l.statements)).foldl (fun ls e => set ls e.1 e.2) before =
      before ++ layers := by
  induction layers generalizing before with
  | nil => simp
  | cons l layers ih =>
    have new : l.name ∉ before.map (·.name) := by
      rw [List.map_append, List.nodup_append] at distinct
      exact fun known => distinct.2.2 _ known _ (List.mem_map_of_mem List.mem_cons_self) rfl
    rw [List.map_cons, List.foldl_cons, set_of_new new, ih (by rwa [List.append_assoc]),
      List.append_assoc, List.singleton_append]

theorem keeps {layers : List Layer} (distinct : (layers.map (·.name)).Nodup)
    (kept : ∀ l ∈ layers, ∀ s ∈ l.statements, Statement.codec.Keeps 3 s) :
    codec.Keeps 5 layers := by
  refine Codec.Keeps.members (fun e he => ?_) (foldl_set distinct)
  obtain ⟨l, hl, rfl⟩ := List.mem_map.mp he
  exact .list (kept l hl)

end Layer

/-! ## Objects -/

namespace Object

/-- All single-width numbers of an object. -/
def singles (o : Object) : List Float32 :=
  o.statements.flatMap (·.material.singles)

/-- All double-width numbers of an object. -/
def doubles (o : Object) : List Float :=
  o.statements.flatMap (·.doubles)

theorem keeps {o : Object} (distinct : (o.layers.map (·.name)).Nodup)
    (layerCount : o.layerCount < UInt64.size) (singles : ∀ x ∈ o.singles, PrintsSingle x)
    (doubles : ∀ x ∈ o.doubles, PrintsDouble x) : codec.Keeps 6 o := by
  have statements : ∀ l ∈ o.layers, ∀ s ∈ l.statements, Statement.codec.Keeps 3 s := by
    intro l hl s hs
    have listed : s ∈ o.statements := List.mem_flatMap.mpr ⟨l, hl, hs⟩
    exact Statement.keeps (fun x hx => singles x (List.mem_flatMap.mpr ⟨s, listed, hx⟩))
      fun x hx => doubles x (List.mem_flatMap.mpr ⟨s, listed, hx⟩)
  exact Record.Keeps.codec (by decide) rfl
    (.cons (keeps_required _ (keeps_text o.objectType)) <|
     .cons (keeps_required _ (keeps_bool o.isComposite)) <|
     .cons (keeps_required _ (Layer.keeps distinct statements)) <|
     .cons (keeps_required _ (keeps_count layerCount)) <|
     .cons (keeps_defaulted _ .standard (Precision.keeps o.precision)) keeps_unit)

/-- An object is read back from its JSON text, compact or pretty: the layers in their order with
    their statements in order, the counter and the precision.  No two layers have the same name, the
    counter is a word of 64 bits, the numbers are finite, and a finite number is read as it was
    printed. -/
theorem ofText_render_object (layout : Json.Layout) (o : Object)
    (distinct : (o.layers.map (·.name)).Nodup) (layerCount : o.layerCount < UInt64.size)
    (finiteSingles : ∀ x ∈ o.singles, x.isFinite) (finiteDoubles : ∀ x ∈ o.doubles, x.isFinite)
    (printedSingles : ∀ x ∈ o.singles, x.isFinite → PrintsSingle x)
    (printedDoubles : ∀ x ∈ o.doubles, x.isFinite → PrintsDouble x) :
    codec.ofText ((codec.write o).render layout) = .ok o :=
  (keeps distinct layerCount (fun x hx => printedSingles x hx (finiteSingles x hx))
    fun x hx => printedDoubles x hx (finiteDoubles x hx)).ofText_render (by decide) layout

/-- An object with a counter that counts nothing, layers against the order of their names and one of
    them empty, a name that has to be escaped, and a body with every kind of detail and property. -/
def varied : Object where
  objectType := "BOX \"A\\B\"\n\x01"
  isComposite := false
  layers :=
    [⟨"zeta", [{ Statement.plain "BOX" "zeta" with
        shape := .egg
        position := ⟨0.1, -0.0, 0.0000001⟩
        material :=
          { Material.wood with
            transmission := some 0.9
            hardness := some (-0.0)
            traits := .ofList [("tensile", 0.8), ("elastic", 1.5)] }
        modifiers := ["red", "red"]
        details := .ofList [("diameter", .length 0.25), ("repeat", .count 4294967295),
          ("attach_to", .reference "é"), ("", .text "")] }]⟩,
     ⟨"", []⟩,
     ⟨"alpha", [Statement.plain "" "", Statement.plain "BOX" "alpha"]⟩]
  layerCount := 18446744073709551615
  precision := .medical

theorem ofText_render_varied :
    (varied.layers.map (·.name)).Nodup ∧ (∀ x ∈ varied.singles, x.isFinite) ∧
      (∀ x ∈ varied.doubles, x.isFinite) ∧
      codec.ofText ((codec.write varied).render .pretty) = .ok varied := by
  have distinct : (varied.layers.map (·.name)).Nodup := by decide
  have finiteSingles : ∀ x ∈ varied.singles, x.isFinite := by decide +kernel
  have finiteDoubles : ∀ x ∈ varied.doubles, x.isFinite := by decide +kernel
  refine ⟨distinct, finiteSingles, finiteDoubles, ?_⟩
  exact ofText_render_object .pretty varied distinct (by decide) finiteSingles finiteDoubles
    (by decide +kernel) (by decide +kernel)

end Object

end LayeredScene
