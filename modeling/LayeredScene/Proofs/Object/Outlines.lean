import LayeredScene.Object.Outline
import LayeredScene.Proofs.Source.LineFeeds
import LayeredScene.Proofs.Text.Separators

/-! # Reading an outline

An outline has no way to write a mark that stands in a name.  All the same it can be read from the
front if no name has a colon in it: a name ends with the first colon, a number ends before the first
letter or the first dot behind it, and behind a dot or a colon an `A` begins a place, a slash begins
a layer, and there is nothing else.
-/

namespace LayeredScene

/-- What an outline tells of a layer. -/
structure OutlinedLayer where
  name : String
  places : List (Triple Int)
deriving DecidableEq

/-- What an outline tells of an object. -/
structure Outlined where
  objectType : String
  layers : List OutlinedLayer
deriving DecidableEq

def Outlined.ofObject (o : Object) : Outlined :=
  { objectType := o.objectType
    layers := o.layers.map fun l => ⟨l.name, l.statements.map fun s => s.position.map decimeters⟩ }

/-- The names in an object are without colons. -/
structure Object.ColonFree (o : Object) : Prop where
  objectType : ':' ∉ o.objectType.toList
  layers : ∀ l ∈ o.layers, ':' ∉ l.name.toList

instance (o : Object) : Decidable o.ColonFree :=
  decidable_of_iff (':' ∉ o.objectType.toList ∧ ∀ l ∈ o.layers, ':' ∉ l.name.toList)
    ⟨fun h => ⟨h.1, h.2⟩, fun h => ⟨h.objectType, h.layers⟩⟩

/-! ## Marks -/

namespace Outlined

def placeChars (p : Triple Int) : List Char :=
  'A' :: ((toString p.x).toList ++ 'B' :: ((toString p.y).toList ++
    'C' :: ((toString p.z).toList ++ ['.'])))

def layerChars (l : OutlinedLayer) : List Char :=
  '/' :: (l.name.toList ++ ':' :: l.places.flatMap placeChars)

def chars (o : Outlined) : List Char :=
  o.objectType.toList ++ ':' :: o.layers.flatMap layerChars

theorem toList_outline (o : Object) : o.outline.toList = (ofObject o).chars := by
  have body (s : Statement) :
      (Object.outlineBody s).toList = placeChars (s.position.map decimeters) := by
    simp [Object.outlineBody, placeChars]
  have layer (l : Layer) : (Object.outlineLayer l).toList =
      layerChars ⟨l.name, l.statements.map fun s => s.position.map decimeters⟩ := by
    simp [Object.outlineLayer, layerChars, List.flatMap_map, body]
  simp [Object.outline, chars, ofObject, List.flatMap_map, layer]

/-! ## Reading from the front -/

theorem placeChars_append_inj {p q : Triple Int} {rest rest' : List Char}
    (h : placeChars p ++ rest = placeChars q ++ rest') : p = q ∧ rest = rest' := by
  simp only [placeChars, List.cons_append, List.append_assoc, List.nil_append,
    List.cons.injEq, true_and] at h
  obtain ⟨x, behindX⟩ := number_append_inj (by decide) h
  obtain ⟨y, behindY⟩ := number_append_inj (by decide) behindX
  obtain ⟨z, behindZ⟩ := number_append_inj (by decide) behindY
  cases p
  cases q
  rw [Triple.mk.injEq]
  exact ⟨⟨x, y, z⟩, behindZ⟩

/-- The places of a layer go on for as long as there is an `A`. -/
theorem places_append_inj {ps qs : List (Triple Int)} {rest rest' : List Char}
    (ends : rest.head? ≠ some 'A') (ends' : rest'.head? ≠ some 'A')
    (h : ps.flatMap placeChars ++ rest = qs.flatMap placeChars ++ rest') :
    ps = qs ∧ rest = rest' := by
  induction ps generalizing qs with
  | nil =>
    cases qs with
    | nil => exact ⟨rfl, h⟩
    | cons q qs =>
      -- Another place would begin with the `A` that does not follow.
      rw [List.flatMap_nil, List.nil_append] at h
      exact absurd (congrArg List.head? h) ends
  | cons p ps ih =>
    cases qs with
    | nil =>
      rw [List.flatMap_nil, List.nil_append] at h
      exact absurd (congrArg List.head? h).symm ends'
    | cons q qs =>
      rw [List.flatMap_cons, List.flatMap_cons, List.append_assoc, List.append_assoc] at h
      obtain ⟨first, behind⟩ := placeChars_append_inj h
      obtain ⟨others, rests⟩ := ih behind
      exact ⟨by rw [first, others], rests⟩

/-- Behind a layer there is a slash or nothing. -/
theorem head?_layers (ls : List OutlinedLayer) : (ls.flatMap layerChars).head? ≠ some 'A' := by
  cases ls with
  | nil => nofun
  | cons l ls => exact fun h => absurd (Option.some.inj h) (by decide)

theorem layers_inj {ls ms : List OutlinedLayer} (hl : ∀ l ∈ ls, ':' ∉ l.name.toList)
    (hm : ∀ m ∈ ms, ':' ∉ m.name.toList) (h : ls.flatMap layerChars = ms.flatMap layerChars) :
    ls = ms := by
  induction ls generalizing ms with
  | nil =>
    cases ms with
    | nil => rfl
    | cons m ms => cases h
  | cons l ls ih =>
    cases ms with
    | nil => cases h
    | cons m ms =>
      rw [List.forall_mem_cons] at hl hm
      simp only [List.flatMap_cons, layerChars, List.cons_append, List.append_assoc,
        List.cons.injEq, true_and] at h
      obtain ⟨name, behind⟩ := append_cons_inj hl.1 hm.1 h
      obtain ⟨places, others⟩ := places_append_inj (head?_layers ls) (head?_layers ms) behind
      cases l
      cases m
      rw [List.cons.injEq, OutlinedLayer.mk.injEq]
      exact ⟨⟨String.toList_inj.mp name, places⟩, ih hl.2 hm.2 others⟩

/-- An outline tells what it tells without ambiguity. -/
theorem eq_of_outline_eq {o o' : Object} (ho : o.ColonFree) (ho' : o'.ColonFree)
    (h : o.outline = o'.outline) : ofObject o = ofObject o' := by
  have written := congrArg String.toList h
  rw [toList_outline, toList_outline] at written
  obtain ⟨objectType, written⟩ := append_cons_inj ho.objectType ho'.objectType written
  have named {o : Object} (ho : o.ColonFree) : ∀ l ∈ (ofObject o).layers, ':' ∉ l.name.toList := by
    intro l hl
    obtain ⟨layer, listed, rfl⟩ := List.mem_map.mp hl
    exact ho.layers layer listed
  rw [ofObject, ofObject, Outlined.mk.injEq]
  exact ⟨String.toList_inj.mp objectType, layers_inj (named ho) (named ho') written⟩

theorem outline_eq_of_eq {o o' : Object} (h : ofObject o = ofObject o') : o.outline = o'.outline :=
  String.toList_inj.mp (by rw [toList_outline, toList_outline, h])

/-- The same goes for the outlines of objects one after the other. -/
theorem map_outline_eq_iff {os os' : List Object} (ho : ∀ o ∈ os, o.ColonFree)
    (ho' : ∀ o ∈ os', o.ColonFree) :
    os.map Object.outline = os'.map Object.outline ↔ os.map ofObject = os'.map ofObject := by
  induction os generalizing os' with
  | nil => cases os' <;> simp
  | cons o os ih =>
    cases os' with
    | nil => simp
    | cons o' os' =>
      rw [List.forall_mem_cons] at ho ho'
      simp only [List.map_cons, List.cons.injEq, ih ho.2 ho'.2]
      refine and_congr_left fun _ => ⟨eq_of_outline_eq ho.1 ho'.1, outline_eq_of_eq⟩

/-! ## Outlines are lines -/

/-- There is no line feed in an outline but in the names that it repeats. -/
theorem isLine_outline {o : Object} (objectType : Text.IsLine o.objectType)
    (layers : ∀ l ∈ o.layers, Text.IsLine l.name) : Text.IsLine o.outline := by
  have number (n : Int) : '\n' ∉ (toString n).toList := notMem_toString (by decide) n
  have place (p : Triple Int) : '\n' ∉ placeChars p := by
    simp only [placeChars, List.mem_cons, List.mem_append, number]
    decide
  have layer {l : OutlinedLayer} (named : Text.IsLine l.name) : '\n' ∉ layerChars l := by
    rw [Text.IsLine] at named
    simp [layerChars, named, place]
  rw [Text.IsLine, toList_outline, chars, List.mem_append, List.mem_cons, List.mem_flatMap]
  rintro (named | colon | ⟨l, hl, feed⟩)
  · exact objectType named
  · cases colon
  · obtain ⟨l', listed, rfl⟩ := List.mem_map.mp hl
    exact layer (layers l' listed) feed

/-- The characters end with a colon or with a dot, if there are any. -/
def IsClosed (cs : List Char) : Prop :=
  ∀ last, cs.getLast? = some last → last = ':' ∨ last = '.'

theorem IsClosed.append {xs ys : List Char} (hx : IsClosed xs) (hy : IsClosed ys) :
    IsClosed (xs ++ ys) := by
  intro last h
  rw [List.getLast?_append, Option.or_eq_some_iff] at h
  cases h with
  | inl back => exact hy last back
  | inr front => exact hx last front.2

theorem isClosed_flatMap {α : Type} {f : α → List Char} (each : ∀ a, IsClosed (f a))
    (as : List α) : IsClosed (as.flatMap f) := by
  induction as with
  | nil => nofun
  | cons a as ih => exact (each a).append ih

/-- Whatever is before a colon, it is what is behind it that has to be closed. -/
theorem isClosed_append_colon (front : List Char) {back : List Char} (h : IsClosed back) :
    IsClosed (front ++ ':' :: back) := by
  have colon : IsClosed (front ++ [':']) := by
    intro last ends
    rw [List.getLast?_concat] at ends
    exact .inl (Option.some.inj ends).symm
  rw [List.append_cons]
  exact colon.append h

theorem isClosed_chars (o : Outlined) : IsClosed o.chars := by
  have place (p : Triple Int) : IsClosed (placeChars p) := by
    intro last ends
    have dot : placeChars p = ('A' :: ((toString p.x).toList ++ 'B' :: ((toString p.y).toList ++
        'C' :: (toString p.z).toList))) ++ ['.'] := by simp [placeChars]
    rw [dot, List.getLast?_concat] at ends
    exact .inr (Option.some.inj ends).symm
  have layer (l : OutlinedLayer) : IsClosed (layerChars l) :=
    isClosed_append_colon ('/' :: l.name.toList) (isClosed_flatMap place l.places)
  exact isClosed_append_colon _ (isClosed_flatMap layer o.layers)

end Outlined

end LayeredScene
