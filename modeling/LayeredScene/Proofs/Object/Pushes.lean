import LayeredScene.Proofs.Object.Layers
import Mathlib

/-! # What pushing statements onto an object makes of it

`Object.Holds` is the invariant of the pushes and says what the layers are through `Layer.Groups`.
`Partition` spells it out: which layers there are and in which order, what stands in each, and what
the counts are.  `partition_of_pushes` is the account of every run of pushes.
-/

namespace LayeredScene

/-- First mentions are kept in their order. -/
theorem pairwise_idxOf_eraseDups (names : List String) :
    names.eraseDups.Pairwise fun a b => names.idxOf a < names.idxOf b := by
  induction names using List.reverseRecOn with
  | nil => exact .nil
  | append_singleton names name ih =>
    -- What is said of the names before stays true when there is one more behind them.
    have before : names.eraseDups.Pairwise fun a b =>
        (names ++ [name]).idxOf a < (names ++ [name]).idxOf b := by
      refine ih.imp_of_mem fun {a b} ha hb earlier => ?_
      rw [List.mem_eraseDups] at ha hb
      rwa [List.idxOf_append_of_mem ha, List.idxOf_append_of_mem hb]
    rw [eraseDups_append_singleton]
    split
    · exact before
    · next new =>
      rw [List.mem_eraseDups] at new
      refine List.pairwise_append.mpr ⟨before, List.pairwise_singleton _ _, fun a ha b hb => ?_⟩
      obtain rfl := List.mem_singleton.mp hb
      rw [List.mem_eraseDups] at ha
      rw [List.idxOf_append_of_mem ha, List.idxOf_append_of_notMem new]
      exact (List.idxOf_lt_length_of_mem ha).trans_le (Nat.le_add_right _ _)

namespace Object

/-- The layers of an object part its statements by the layer that each of them names. -/
structure Partition (o : Object) (statements : List Statement) : Prop where
  names : o.layers.map (·.name) = (statements.map (·.layer)).eraseDups
  distinct : (o.layers.map (·.name)).Nodup
  mentioned : ∀ name, name ∈ o.layers.map (·.name) ↔ ∃ s ∈ statements, s.layer = name
  /-- A layer stands before another if it was mentioned earlier. -/
  inOrder : (o.layers.map (·.name)).Pairwise fun a b =>
    (statements.map (·.layer)).idxOf a < (statements.map (·.layer)).idxOf b
  /-- The statements of a layer are those that name it, as they were pushed. -/
  layer : ∀ l ∈ o.layers, l.statements = statements.filter (·.layer = l.name)
  filled : ∀ l ∈ o.layers, l.statements ≠ []
  own : ∀ l ∈ o.layers, ∀ s ∈ l.statements, s.layer = l.name
  layerCount : o.layerCount = o.layers.length
  nameCount : o.layerCount = (statements.map (·.layer)).toFinset.card
  statementCount : o.statementCount = statements.length
  countByLayer : o.statementCount = (o.layers.map (·.statements.length)).sum
  byLayer : o.statements = (o.layers.map (·.statements)).flatten
  perm : o.statements.Perm statements

theorem Holds.partition {o : Object} {statements : List Statement} (h : o.Holds statements) :
    o.Partition statements where
  names := h.groups.names
  distinct := h.groups.nodup_names
  mentioned name := by rw [h.groups.names, List.mem_eraseDups, List.mem_map]
  inOrder := by
    rw [h.groups.names]
    exact pairwise_idxOf_eraseDups _
  layer _ hl := h.groups.statements_eq hl
  filled _ hl := h.groups.statements_ne_nil hl
  own l hl s hs := by
    rw [h.groups.statements_eq hl, List.mem_filter] at hs
    exact of_decide_eq_true hs.2
  layerCount := h.layerCount
  nameCount := by
    -- A list without repetition is as long as the set of what is in it.
    have same : (statements.map (·.layer)).toFinset = (o.layers.map (·.name)).toFinset := by
      ext name
      rw [List.mem_toFinset, List.mem_toFinset, h.groups.names, List.mem_eraseDups]
    rw [same, List.toFinset_card_of_nodup h.groups.nodup_names, List.length_map, h.layerCount]
  statementCount := h.perm.length_eq
  countByLayer := List.length_flatMap
  byLayer := List.flatMap_def
  perm := h.perm

/-- Statements pushed onto an object without any: its layers part them, in the order of their first
    mention and each in the order of the pushes, the counts agree with them, and what the object was
    made with stays. -/
theorem partition_of_pushes (objectType : String) (isComposite : Bool)
    (statements : List Statement) :
    let o := statements.foldl push (empty objectType isComposite)
    o.Partition statements ∧ o.objectType = objectType ∧ o.isComposite = isComposite ∧
      o.precision = if isComposite then .medical else .standard := by
  refine ⟨(holds_foldl_push (holds_empty objectType isComposite) statements).partition, ?_, ?_, ?_⟩
  · exact foldl_push_kept (·.objectType) (fun _ _ => rfl) statements _
  · exact foldl_push_kept (·.isComposite) (fun _ _ => rfl) statements _
  · exact foldl_push_kept (·.precision) (fun _ _ => rfl) statements _

end Object

end LayeredScene
