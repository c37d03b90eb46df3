import LayeredScene.Compilation.Render
import LayeredScene.Proofs.Compilation.Concatenation
import LayeredScene.Proofs.Compilation.ObjectTypes
import LayeredScene.Proofs.Object.Layers
import LayeredScene.Proofs.Object.Outlines

/-! # The outlines of a compilation

The outlines of the objects are written one to a line.  No outline has a line feed, as none comes
out of the lines of a source text, and none ends with a carriage return; so the text has the
outlines for its lines, and what each of them tells can be read from it.
-/

namespace LayeredScene

namespace Compilation

variable {settings settings' : Settings} {source source' : String} {c d : Compilation}

/-! ## The names in a compilation -/

theorem map_outline (h : ofSource settings source = .ok c) :
    c.objects.map (·.outline) = (c.objects.map (·.object)).map Object.outline := by
  rw [ofSource_eq_objectsFrom] at h
  obtain ⟨objects, built, rfl⟩ := map_eq_ok h
  have outlines := (builtFrom_of_ok built).outlines
  rw [← (builtFrom_of_ok built).objects] at outlines
  exact outlines

/-- The type and the layers of an object are named by lines of the source text. -/
theorem isLine_names (h : ofSource settings source = .ok c) {o : BuiltObject} (ho : o ∈ c.objects) :
    Text.IsLine o.object.objectType ∧ ∀ l ∈ o.object.layers, Text.IsLine l.name := by
  obtain ⟨k, hk⟩ := List.mem_iff_getElem?.mp ho
  obtain ⟨b, objectType, hb, object, -⟩ := exists_block h hk
  have listed {l : NumberedLine} (hl : l ∈ b.lines) : l ∈ NumberedLine.ofSource source := by
    rw [← Block.flatMap_lines_split (NumberedLine.ofSource source)]
    exact List.mem_flatMap.mpr ⟨b, List.mem_of_getElem? hb, hl⟩
  constructor
  · obtain ⟨r, read⟩ := Option.isSome_iff_exists.mp
      (Block.isSome_ofLines?_of_mem_ofSource (List.mem_of_getElem? hb))
    obtain ⟨o', ho', same, -⟩ := exists_object_of_reading h hb read
    obtain rfl : o' = o := Option.some.inj (ho'.symm.trans hk)
    obtain ⟨d, hd, -, typed, -⟩ := Reading.exists_deciding read
    have line := NumberedLine.isLine_text (listed hd)
    rw [same, typed]
    cases leads : d.leadingType? with
    | none => exact line.upper
    | some objectType => exact NumberedLine.isLine_leadingType line leads
  · intro l hl
    have named : l.name ∈ o.object.layers.map (·.name) := List.mem_map_of_mem hl
    rw [object, (Object.groups_ofStatements objectType _).names, List.mem_eraseDups] at named
    obtain ⟨s, hs, same⟩ := List.mem_map.mp named
    obtain ⟨line, hl, gives⟩ := List.mem_filterMap.mp hs
    rw [← same]
    exact NumberedLine.isLine_layer (NumberedLine.isLine_text (listed hl)) gives

/-! ## The outlines are the lines of the text -/

/-- Every outline is that of an object whose names are lines. -/
theorem exists_object_of_outline (h : ofSource settings source = .ok c) {outline : String}
    (ho : outline ∈ c.objects.map (·.outline)) :
    ∃ o : Object, outline = o.outline ∧ Text.IsLine o.objectType ∧
      ∀ l ∈ o.layers, Text.IsLine l.name := by
  rw [map_outline h, List.map_map] at ho
  obtain ⟨o, listed, rfl⟩ := List.mem_map.mp ho
  exact ⟨o.object, rfl, isLine_names h listed⟩

theorem isLine_of_mem_outlines (h : ofSource settings source = .ok c) {outline : String}
    (ho : outline ∈ c.objects.map (·.outline)) : Text.IsLine outline := by
  obtain ⟨o, rfl, objectType, layers⟩ := exists_object_of_outline h ho
  exact Outlined.isLine_outline objectType layers

theorem lines_outlineText (h : ofSource settings source = .ok c) :
    Text.lines c.outlineText = c.objects.map (·.outline) := by
  refine Text.lines_intercalate (fun l hl => isLine_of_mem_outlines h hl) ?_ ?_
  · intro l hl none
    obtain ⟨o, rfl, -⟩ := exists_object_of_outline h hl
    have chars := congrArg String.toList none
    rw [Outlined.toList_outline] at chars
    exact List.append_ne_nil_of_right_ne_nil _ (List.cons_ne_nil _ _) chars
  · intro l hl ends
    obtain ⟨o, rfl, -⟩ := exists_object_of_outline h hl
    rw [Outlined.toList_outline] at ends
    cases Outlined.isClosed_chars _ _ ends with
    | inl colon => exact absurd colon (by decide)
    | inr dot => exact absurd dot (by decide)

/-! ## Reading the text -/

/-- What the outlines of the objects tell. -/
def outlined (c : Compilation) : List Outlined :=
  (c.objects.map (·.object)).map Outlined.ofObject

/-- The outlines of a compilation are the lines of one text, and none of them has a line feed.  If
    no type and no layer has a colon in its name, two compilations have the same text exactly if
    they have as many objects as each other, with the same types, the same layers in the same
    order, and in each layer as many bodies at the same places in whole decimeters. -/
theorem outlineText_readable (hc : ofSource settings source = .ok c)
    (hd : ofSource settings' source' = .ok d) :
    (∀ o ∈ c.objects, '\n' ∉ o.outline.toList) ∧
    Text.lines c.outlineText = c.objects.map (·.outline) ∧
    ((∀ o ∈ c.objects ++ d.objects, o.object.ColonFree) →
      (c.outlineText = d.outlineText ↔ c.outlined = d.outlined)) := by
  refine ⟨fun o ho => isLine_of_mem_outlines hc (List.mem_map_of_mem ho), lines_outlineText hc, ?_⟩
  intro colonFree
  have colonFreeC : ∀ o ∈ c.objects.map (·.object), o.ColonFree := by
    rw [List.forall_mem_map]
    exact fun o ho => colonFree o (List.mem_append_left _ ho)
  have colonFreeD : ∀ o ∈ d.objects.map (·.object), o.ColonFree := by
    rw [List.forall_mem_map]
    exact fun o ho => colonFree o (List.mem_append_right _ ho)
  rw [outlined, outlined, ← Outlined.map_outline_eq_iff colonFreeC colonFreeD, ← map_outline hc,
    ← map_outline hd]
  constructor
  · intro same
    rw [← lines_outlineText hc, ← lines_outlineText hd, same]
  · intro same
    rw [outlineText, outlineText, same]

/-- Boxes of different shapes, of which the second is further back, but not by a whole
    decimeter. -/
theorem outlineText_readable_boxes :
    ∃ c d, ofSource {} "BOX > side > cube backward 20cm" = .ok c ∧
      ofSource {} "box > Side > pyramid backward 29cm" = .ok d ∧
      c.outlineText = "BOX:/side:A-2B0C0." ∧ c.outlined = d.outlined := by
  obtain ⟨c, hc, readableC⟩ := exists_eq_ok_of (x := ofSource {} "BOX > side > cube backward 20cm")
    (p := fun c => c.outlineText = "BOX:/side:A-2B0C0." ∧ ∀ o ∈ c.objects, o.object.ColonFree)
    (by decide +kernel)
  obtain ⟨d, hd, readableD⟩ := exists_eq_ok_of
    (x := ofSource {} "box > Side > pyramid backward 29cm")
    (p := fun d => d.outlineText = "BOX:/side:A-2B0C0." ∧ ∀ o ∈ d.objects, o.object.ColonFree)
    (by decide +kernel)
  obtain ⟨textC, colonFreeC⟩ := of_decide_eq_true readableC
  obtain ⟨textD, colonFreeD⟩ := of_decide_eq_true readableD
  refine ⟨c, d, hc, hd, textC, ?_⟩
  obtain ⟨-, -, readable⟩ := outlineText_readable hc hd
  refine (readable fun o ho => ?_).mp (textC.trans textD.symm)
  cases List.mem_append.mp ho with
  | inl ho => exact colonFreeC o ho
  | inr ho => exact colonFreeD o ho

end Compilation

end LayeredScene
