import LayeredScene.Object.Basic

/-! # The layers of an object group its statements

Pushing statements one after the other onto an object without any is a stable grouping: the layers
are the names that the statements mention, in the order of their first mention, and each layer has
the statements that name it, in the order in which they were pushed.  `Groups` is this of the layers.
Together with the counter, and with no statement lost, it is what every push keeps
(`Object.Holds`), and `holds_foldl_push` is what a whole run of pushes amounts to.
-/

namespace LayeredScene

/-! ## First mentions -/

theorem nodup_eraseDups : ∀ names : List String, names.eraseDups.Nodup
  | [] => .nil
  | name :: names => by
    rw [List.eraseDups_cons, List.nodup_cons]
    exact ⟨by simp [List.mem_eraseDups], nodup_eraseDups _⟩
termination_by names => names.length
decreasing_by
  -- What is left after a first mention has been filtered.
  have := List.length_filter_le (fun other => !other == name) names
  simp only [List.length_cons]
  omega

/-- A further name is kept unless it was mentioned before. -/
theorem eraseDups_append_singleton (names : List String) (name : String) :
    (names ++ [name]).eraseDups =
      if name ∈ names.eraseDups then names.eraseDups else names.eraseDups ++ [name] := by
  rw [List.eraseDups_append]
  by_cases known : name ∈ names <;>
    simp [known, List.removeAll, List.mem_eraseDups, List.eraseDups_cons]

namespace Layer

/-- The statements of the first layer of a name; none if there is no such layer. -/
def under (name : String) : List Layer → List Statement
  | [] => []
  | l :: ls => if l.name = name then l.statements else under name ls

/-- The layers hold the statements, grouped by the layer that each of them names. -/
structure Groups (layers : List Layer) (statements : List Statement) : Prop where
  names : layers.map (·.name) = (statements.map (·.layer)).eraseDups
  under_eq : ∀ name, under name layers = statements.filter (·.layer = name)

/-! ## One statement -/

theorem names_add (s : Statement) (ls : List Layer) :
    (add s ls).map (·.name) =
      if s.layer ∈ ls.map (·.name) then ls.map (·.name) else ls.map (·.name) ++ [s.layer] := by
  induction ls with
  | nil => simp [add]
  | cons l ls ih =>
    simp only [add]
    -- This layer takes the statement, or one behind it does.
    split
    · next same => simp [same]
    · next other =>
      simp only [List.map_cons, ih, List.mem_cons, Ne.symm other, false_or]
      split <;> simp

theorem under_add (s : Statement) (name : String) (ls : List Layer) :
    under name (add s ls) = under name ls ++ if s.layer = name then [s] else [] := by
  induction ls with
  | nil => simp [add, under]
  | cons l ls ih =>
    simp only [add]
    split
    · next same =>
      simp only [under, same]
      split <;> simp
    · next other =>
      simp only [under, ih]
      split
      -- The first layer of the name is this one, and the statement is for another.
      · next found => simp [show s.layer ≠ name from fun h => other (found.trans h.symm)]
      · rfl

/-- Only the statement is added, and none is lost. -/
theorem perm_add (s : Statement) (ls : List Layer) :
    ((add s ls).flatMap (·.statements)).Perm (ls.flatMap (·.statements) ++ [s]) := by
  induction ls with
  | nil => simp [add]
  | cons l ls ih =>
    simp only [add]
    split
    · rw [List.flatMap_cons, List.flatMap_cons, List.append_assoc, List.append_assoc]
      exact List.perm_append_comm.append_left _
    · rw [List.flatMap_cons, List.flatMap_cons, List.append_assoc]
      exact ih.append_left _

/-- A statement that is added joins the group of its layer. -/
theorem Groups.add {layers : List Layer} {statements : List Statement}
    (h : Groups layers statements) (s : Statement) : Groups (add s layers) (statements ++ [s]) where
  names := by
    rw [names_add, h.names, List.map_append]
    exact (eraseDups_append_singleton _ _).symm
  under_eq name := by
    rw [under_add, h.under_eq, List.filter_append]
    by_cases here : s.layer = name <;> simp [here]

/-! ## What groups look like -/

theorem under_name_of_mem {ls : List Layer} (distinct : (ls.map (·.name)).Nodup) {l : Layer}
    (h : l ∈ ls) : under l.name ls = l.statements := by
  induction ls with
  | nil => cases h
  | cons l' ls ih =>
    rw [List.map_cons, List.nodup_cons] at distinct
    simp only [under]
    rcases List.mem_cons.1 h with rfl | later
    · simp
    · rw [if_neg, ih distinct.2 later]
      intro same
      exact distinct.1 (same ▸ List.mem_map_of_mem later)

variable {layers : List Layer} {statements : List Statement}

theorem Groups.nodup_names (h : Groups layers statements) : (layers.map (·.name)).Nodup := by
  rw [h.names]
  exact nodup_eraseDups _

theorem Groups.statements_eq (h : Groups layers statements) {l : Layer} (hl : l ∈ layers) :
    l.statements = statements.filter (·.layer = l.name) := by
  -- The layers have different names, so that each is the first one of its own.
  rw [← under_name_of_mem h.nodup_names hl, h.under_eq]

theorem Groups.exists_layer (h : Groups layers statements) {s : Statement} (hs : s ∈ statements) :
    ∃ l ∈ layers, l.name = s.layer := by
  have named : s.layer ∈ layers.map (·.name) := by
    rw [h.names, List.mem_eraseDups]
    exact List.mem_map_of_mem hs
  exact List.mem_map.1 named

/-- A layer comes from a statement that names it. -/
theorem Groups.statements_ne_nil (h : Groups layers statements) {l : Layer} (hl : l ∈ layers) :
    l.statements ≠ [] := by
  have named : l.name ∈ layers.map (·.name) := List.mem_map_of_mem hl
  rw [h.names, List.mem_eraseDups] at named
  obtain ⟨s, hs, same⟩ := List.mem_map.mp named
  rw [h.statements_eq hl]
  exact List.ne_nil_of_mem (List.mem_filter.mpr ⟨hs, by simpa using same⟩)

end Layer

/-! ## Objects -/

namespace Object

/-- What the statements pushed so far make of the layers of an object and of its counter. -/
structure Holds (o : Object) (statements : List Statement) : Prop where
  groups : Layer.Groups o.layers statements
  layerCount : o.layerCount = o.layers.length
  perm : o.statements.Perm statements

theorem holds_empty (objectType : String) (isComposite : Bool) :
    (empty objectType isComposite).Holds [] where
  groups := ⟨rfl, fun _ => rfl⟩
  layerCount := rfl
  perm := .nil

theorem Holds.push {o : Object} {statements : List Statement} (h : o.Holds statements)
    (s : Statement) : (o.push s).Holds (statements ++ [s]) where
  groups := h.groups.add s
  layerCount := rfl
  perm := (Layer.perm_add s o.layers).trans (h.perm.append_right [s])

theorem holds_foldl_push {o : Object} {before : List Statement} (h : o.Holds before)
    (statements : List Statement) : (statements.foldl push o).Holds (before ++ statements) := by
  induction statements generalizing o before with
  | nil => simpa using h
  | cons s statements ih =>
    rw [List.foldl_cons, List.append_cons]
    -- One push takes the invariant from the statements before it to those with it.
    exact ih (h.push s)

/-- What no push changes is the same after all of them. -/
theorem foldl_push_kept {α : Type} (part : Object → α) (kept : ∀ o s, part (push o s) = part o)
    (statements : List Statement) (o : Object) : part (statements.foldl push o) = part o := by
  induction statements generalizing o with
  | nil => rfl
  | cons s statements ih => exact (ih (o.push s)).trans (kept o s)

theorem holds_ofStatements (objectType : String) (statements : List Statement) :
    (ofStatements objectType statements).Holds statements :=
  holds_foldl_push (holds_empty objectType _) statements

/-- The layers of an object group the statements that it is made of. -/
theorem groups_ofStatements (objectType : String) (statements : List Statement) :
    Layer.Groups (ofStatements objectType statements).layers statements :=
  (holds_ofStatements objectType statements).groups

theorem mem_statements_ofStatements {objectType : String} {statements : List Statement}
    {s : Statement} : s ∈ (ofStatements objectType statements).statements ↔ s ∈ statements :=
  (holds_ofStatements objectType statements).perm.mem_iff

theorem statementCount_ofStatements (objectType : String) (statements : List Statement) :
    (ofStatements objectType statements).statementCount = statements.length :=
  (holds_ofStatements objectType statements).perm.length_eq

end Object

end LayeredScene
