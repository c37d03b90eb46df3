import LayeredScene.Proofs.Compilation.Objects
import LayeredScene.Proofs.Object.Layers
import LayeredScene.Proofs.Source.Lines

/-! # Every line is accounted for

A line that counts ends up in exactly one place of the compilation of its source: as a statement in
a layer of the object of its block, or as an entry of the report.  `Places` says which of the two
and where, and that the lines and the places of the compilation are in one-to-one correspondence.

The place of a line is found by counting: in the report the lines before it that are dropped, and in
its layer the lines before it in its block that are for the same layer.
-/

namespace LayeredScene

/-- A place of a compilation: a statement in a layer of an object, or an entry of the report. -/
inductive LinePlace where
  | statement (object layer position : Nat)
  | report (position : Nat)
deriving DecidableEq

namespace Compilation

/-- What a compilation holds at a place. -/
def at? (c : Compilation) : LinePlace → Option (Statement ⊕ DroppedLine)
  | .statement object layer position => do
    let o ← c.objects[object]?
    let l ← o.object.layers[layer]?
    let s ← l.statements[position]?
    return .inl s
  | .report position => c.dropped[position]?.map .inr

/-- Each line of the blocks has a place in the compilation.  `place k i` is that of the `i`-th line
    of the `k`-th block. -/
structure Places (blocks : List Block) (c : Compilation) (place : Nat → Nat → LinePlace) :
    Prop where
  /-- A line with two separators is a statement of the object of its block, in its own layer. -/
  statement : ∀ {k i b l}, blocks[k]? = some b → b.lines[i]? = some l → 2 ≤ separators l.text →
    ∃ s o j layer p, Statement.ofLine l.text = .ok s ∧ place k i = .statement k j p ∧
      c.objects[k]? = some o ∧ o.object.layers[j]? = some layer ∧ layer.name = s.layer ∧
      layer.statements[p]? = some s
  /-- A line with fewer is an entry of the report, with its number of segments. -/
  report : ∀ {k i b l}, blocks[k]? = some b → b.lines[i]? = some l → separators l.text < 2 →
    ∃ p, place k i = .report p ∧ c.dropped[p]? = some ⟨l, ⟨separators l.text + 1⟩⟩
  /-- Two lines of a block for the same layer keep their order. -/
  ordered : ∀ {k i i' b l l' s s'}, blocks[k]? = some b → b.lines[i]? = some l →
    b.lines[i']? = some l' → Statement.ofLine l.text = .ok s → Statement.ofLine l'.text = .ok s' →
    s.layer = s'.layer → i < i' →
    ∃ j p p', place k i = .statement k j p ∧ place k i' = .statement k j p' ∧ p < p'
  /-- Different lines have different places. -/
  injective : ∀ {k i b l k' i' b' l'}, blocks[k]? = some b → b.lines[i]? = some l →
    blocks[k']? = some b' → b'.lines[i']? = some l' → place k i = place k' i' → k = k' ∧ i = i'
  /-- Every place of the compilation is that of a line. -/
  surjective : ∀ {q}, (c.at? q).isSome →
    ∃ k i b l, blocks[k]? = some b ∧ b.lines[i]? = some l ∧ place k i = q

end Compilation

/-! ## What a line gives -/

namespace NumberedLine

/-- The statement of a line that is for the layer of a name. -/
def statementFor? (name : String) (l : NumberedLine) : Option Statement :=
  l.statement?.filter (·.layer = name)

theorem statement?_eq_some_iff {l : NumberedLine} {s : Statement} :
    l.statement? = some s ↔ Statement.ofLine l.text = .ok s := by
  unfold statement?
  cases Statement.ofLine l.text <;> simp [Except.toOption]

theorem statementFor?_eq_some_iff {name : String} {l : NumberedLine} {s : Statement} :
    l.statementFor? name = some s ↔ Statement.ofLine l.text = .ok s ∧ s.layer = name := by
  rw [statementFor?, Option.filter_eq_some_iff, statement?_eq_some_iff, decide_eq_true_iff]

theorem dropped?_eq_some_iff {l : NumberedLine} {d : DroppedLine} :
    l.dropped? = some d ↔ separators l.text < 2 ∧ d = ⟨l, ⟨separators l.text + 1⟩⟩ := by
  unfold dropped?
  by_cases few : separators l.text < 2
  · simp [ofLine_of_lt_two few, few, eq_comm]
  · obtain ⟨s, hs⟩ := ofLine_of_two_le (Nat.le_of_not_lt few)
    simp [hs, few]

/-- A line gives a statement or is dropped, and never both. -/
theorem length_statements_add_dropped (lines : List NumberedLine) :
    (lines.filterMap NumberedLine.statement?).length +
        (lines.filterMap NumberedLine.dropped?).length =
      lines.length := by
  induction lines with
  | nil => rfl
  | cons l lines ih =>
    cases parsed : Statement.ofLine l.text with
    | ok s =>
      have kept : l.statement? = some s := statement?_eq_some_iff.2 parsed
      have notDropped : l.dropped? = none := by simp [dropped?, parsed]
      simp only [List.filterMap_cons_some kept, List.filterMap_cons_none notDropped,
        List.length_cons]
      omega
    | error fault =>
      have notKept : l.statement? = none := by simp [statement?, parsed, Except.toOption]
      have dropped : l.dropped? = some ⟨l, fault⟩ := by simp [dropped?, parsed]
      simp only [List.filterMap_cons_none notKept, List.filterMap_cons_some dropped,
        List.length_cons]
      omega

end NumberedLine

/-! ## Layers by number -/

namespace Layer

/-- The number of the first layer of a name. -/
def number (name : String) (layers : List Layer) : Nat :=
  layers.findIdx (·.name = name)

/-- Where names differ, a layer is the first one of its name. -/
theorem number_name {layers : List Layer} (distinct : (layers.map (·.name)).Nodup) {j : Nat}
    {l : Layer} (h : layers[j]? = some l) : number l.name layers = j := by
  obtain ⟨hj, rfl⟩ := List.getElem?_eq_some_iff.1 h
  refine (List.findIdx_eq hj).2 ⟨by simp, fun j' before => ?_⟩
  -- Every layer before this one has another name.
  have differ := List.pairwise_iff_getElem.1 (List.pairwise_map.1 distinct) j' j
    (Nat.lt_trans before hj) hj before
  simpa using differ

/-- The lines of a block that are for a layer are what the layer holds. -/
theorem Groups.statements_eq_filterMap {layers : List Layer} {lines : List NumberedLine}
    (h : Groups layers (lines.filterMap NumberedLine.statement?)) {l : Layer} (hl : l ∈ layers) :
    l.statements = lines.filterMap (NumberedLine.statementFor? l.name) := by
  rw [h.statements_eq hl, List.filter_filterMap]
  rfl

end Layer

namespace Compilation

/-! ## The place of a line -/

/-- The place of the `i`-th line of the `k`-th block. -/
def placeOf (blocks : List Block) (c : Compilation) (k i : Nat) : LinePlace :=
  let lines := (blocks[k]?.map (·.lines)).getD []
  let layers := (c.objects[k]?.map (·.object.layers)).getD []
  match lines[i]?.bind NumberedLine.statement? with
  | some s =>
    .statement k (Layer.number s.layer layers)
      (keptBefore (NumberedLine.statementFor? s.layer) lines i)
  | none =>
    .report (joinedBefore (fun b => b.lines.filterMap NumberedLine.dropped?) blocks k +
      keptBefore NumberedLine.dropped? lines i)

variable {settings : Settings} {source : String} {c : Compilation} {k i : Nat} {b : Block}
  {l : NumberedLine} {s : Statement} {o : BuiltObject}

theorem placeOf_statement {blocks : List Block} (hb : blocks[k]? = some b)
    (hl : b.lines[i]? = some l) (ho : c.objects[k]? = some o)
    (hs : Statement.ofLine l.text = .ok s) :
    placeOf blocks c k i = .statement k (Layer.number s.layer o.object.layers)
      (keptBefore (NumberedLine.statementFor? s.layer) b.lines i) := by
  have parsed : l.statement? = some s := NumberedLine.statement?_eq_some_iff.2 hs
  simp [placeOf, hb, hl, ho, parsed]

theorem placeOf_report {blocks : List Block} (hb : blocks[k]? = some b)
    (hl : b.lines[i]? = some l) (few : separators l.text < 2) :
    placeOf blocks c k i =
      .report (joinedBefore (fun b => b.lines.filterMap NumberedLine.dropped?) blocks k +
        keptBefore NumberedLine.dropped? b.lines i) := by
  have notParsed : l.statement? = none := by
    simp [NumberedLine.statement?, ofLine_of_lt_two few, Except.toOption]
  simp [placeOf, hb, hl, notParsed]

theorem groups_of_ofSource (h : ofSource settings source = .ok c)
    (hb : (Block.ofSource source)[k]? = some b) :
    ∃ o, c.objects[k]? = some o ∧
      Layer.Groups o.object.layers (b.lines.filterMap NumberedLine.statement?) := by
  obtain ⟨o, objectType, ho, object, -⟩ := exists_object h hb
  exact ⟨o, ho, object ▸ Object.groups_ofStatements objectType _⟩

/-- A statement stands in the layer of its name, behind those of the lines before it. -/
theorem exists_layer_of_statement (grouped : Layer.Groups o.object.layers
    (b.lines.filterMap NumberedLine.statement?)) (hl : b.lines[i]? = some l)
    (hs : Statement.ofLine l.text = .ok s) :
    ∃ layer, o.object.layers[Layer.number s.layer o.object.layers]? = some layer ∧
      layer.name = s.layer ∧
      layer.statements[keptBefore (NumberedLine.statementFor? s.layer) b.lines i]? = some s := by
  have parsed : l.statement? = some s := NumberedLine.statement?_eq_some_iff.2 hs
  obtain ⟨layer, member, name⟩ := grouped.exists_layer
    (List.mem_filterMap.2 ⟨l, List.mem_of_getElem? hl, parsed⟩)
  obtain ⟨j, hj⟩ := List.mem_iff_getElem?.1 member
  have number := Layer.number_name grouped.nodup_names hj
  rw [name] at number
  -- The layer holds what the lines of the block give it, in their order.
  refine ⟨layer, number ▸ hj, name, ?_⟩
  rw [grouped.statements_eq_filterMap member, name]
  exact getElem?_filterMap_keptBefore hl (NumberedLine.statementFor?_eq_some_iff.2 ⟨hs, rfl⟩)

theorem keptBefore_dropped_lt (hl : b.lines[i]? = some l) (few : separators l.text < 2) :
    keptBefore NumberedLine.dropped? b.lines i < (b.lines.filterMap NumberedLine.dropped?).length :=
  (List.getElem?_eq_some_iff.1 (getElem?_filterMap_keptBefore hl
    (NumberedLine.dropped?_eq_some_iff.2 ⟨few, rfl⟩))).1

/-! ## Lines and places -/

theorem placeOf_ordered (h : ofSource settings source = .ok c) {i' : Nat} {l' : NumberedLine}
    {s' : Statement} (hb : (Block.ofSource source)[k]? = some b) (hl : b.lines[i]? = some l)
    (hl' : b.lines[i']? = some l') (hs : Statement.ofLine l.text = .ok s)
    (hs' : Statement.ofLine l'.text = .ok s') (same : s.layer = s'.layer) (before : i < i') :
    ∃ j p p', placeOf (Block.ofSource source) c k i = .statement k j p ∧
      placeOf (Block.ofSource source) c k i' = .statement k j p' ∧ p < p' := by
  obtain ⟨o, ho, -⟩ := groups_of_ofSource h hb
  -- The earlier line is among those that are counted before the later one.
  have kept := NumberedLine.statementFor?_eq_some_iff.2 ⟨hs, same⟩
  exact ⟨_, _, _, same ▸ placeOf_statement hb hl ho hs, placeOf_statement hb hl' ho hs',
    keptBefore_lt hl kept before⟩

theorem placeOf_injective (h : ofSource settings source = .ok c) {k' i' : Nat} {b' : Block}
    {l' : NumberedLine} (hb : (Block.ofSource source)[k]? = some b) (hl : b.lines[i]? = some l)
    (hb' : (Block.ofSource source)[k']? = some b') (hl' : b'.lines[i']? = some l')
    (same : placeOf (Block.ofSource source) c k i = placeOf (Block.ofSource source) c k' i') :
    k = k' ∧ i = i' := by
  obtain ⟨o, ho, grouped⟩ := groups_of_ofSource h hb
  obtain ⟨o', ho', grouped'⟩ := groups_of_ofSource h hb'
  by_cases few : separators l.text < 2 <;> by_cases few' : separators l'.text < 2
  · -- Both are in the report.
    rw [placeOf_report hb hl few, placeOf_report hb' hl' few', LinePlace.report.injEq] at same
    obtain ⟨rfl, position⟩ := joinedBefore_inj hb (keptBefore_dropped_lt hl few) hb'
      (keptBefore_dropped_lt hl' few') same
    obtain rfl : b = b' := by simpa [hb] using hb'
    exact ⟨rfl, keptBefore_inj hl (NumberedLine.dropped?_eq_some_iff.2 ⟨few, rfl⟩) hl'
      (NumberedLine.dropped?_eq_some_iff.2 ⟨few', rfl⟩) position⟩
  · obtain ⟨s', hs'⟩ := ofLine_of_two_le (Nat.le_of_not_lt few')
    rw [placeOf_report hb hl few, placeOf_statement hb' hl' ho' hs'] at same
    cases same
  · obtain ⟨s, hs⟩ := ofLine_of_two_le (Nat.le_of_not_lt few)
    rw [placeOf_statement hb hl ho hs, placeOf_report hb' hl' few'] at same
    cases same
  · -- Both are statements: of one object, and of one layer since they have its name.
    obtain ⟨s, hs⟩ := ofLine_of_two_le (Nat.le_of_not_lt few)
    obtain ⟨s', hs'⟩ := ofLine_of_two_le (Nat.le_of_not_lt few')
    rw [placeOf_statement hb hl ho hs, placeOf_statement hb' hl' ho' hs',
      LinePlace.statement.injEq] at same
    obtain ⟨rfl, sameLayer, position⟩ := same
    obtain rfl : b = b' := by simpa [hb] using hb'
    obtain rfl : o = o' := by simpa [ho] using ho'
    obtain ⟨layer, hlayer, name, -⟩ := exists_layer_of_statement grouped hl hs
    obtain ⟨layer', hlayer', name', -⟩ := exists_layer_of_statement grouped hl' hs'
    rw [← sameLayer, hlayer, Option.some.injEq] at hlayer'
    have sameName : s.layer = s'.layer := by rw [← name, hlayer', name']
    rw [sameName] at position
    exact ⟨rfl, keptBefore_inj hl (NumberedLine.statementFor?_eq_some_iff.2 ⟨hs, sameName⟩) hl'
      (NumberedLine.statementFor?_eq_some_iff.2 ⟨hs', rfl⟩) position⟩

theorem placeOf_surjective (h : ofSource settings source = .ok c) {q : LinePlace}
    (held : (c.at? q).isSome) :
    ∃ k i b l, (Block.ofSource source)[k]? = some b ∧ b.lines[i]? = some l ∧
      placeOf (Block.ofSource source) c k i = q := by
  cases q with
  | statement k j p =>
    obtain ⟨_, value⟩ := Option.isSome_iff_exists.1 held
    obtain ⟨o, ho, value⟩ := Option.bind_eq_some_iff.1 value
    obtain ⟨layer, hlayer, value⟩ := Option.bind_eq_some_iff.1 value
    obtain ⟨s, hs, -⟩ := Option.bind_eq_some_iff.1 value
    have inRange : k < (Block.ofSource source).length := by
      rw [← length_objects h]
      exact lt_length_of_getElem? ho
    have hb := List.getElem?_eq_getElem inRange
    obtain ⟨o', ho', grouped⟩ := groups_of_ofSource h hb
    obtain rfl : o = o' := by simpa [ho] using ho'
    -- What a layer holds is what the lines of the block give it, so that one of them gives this.
    rw [grouped.statements_eq_filterMap (List.mem_of_getElem? hlayer)] at hs
    obtain ⟨i, l, hl, kept, rfl⟩ := exists_keptBefore hs
    obtain ⟨parsed, name⟩ := NumberedLine.statementFor?_eq_some_iff.1 kept
    refine ⟨k, i, _, l, hb, hl, ?_⟩
    rw [placeOf_statement hb hl ho parsed, name, Layer.number_name grouped.nodup_names hlayer]
  | report p =>
    obtain ⟨_, value⟩ := Option.isSome_iff_exists.1 held
    obtain ⟨d, hd, -⟩ := Option.map_eq_some_iff.1 value
    -- First the block whose lines the entry is among, then the line.
    rw [dropped_eq h] at hd
    obtain ⟨k, b, position, hb, entry, rfl⟩ := exists_joinedBefore hd
    have entry : (b.lines.filterMap NumberedLine.dropped?)[position]? = some d := entry
    obtain ⟨i, l, hl, kept, rfl⟩ := exists_keptBefore entry
    obtain ⟨few, -⟩ := NumberedLine.dropped?_eq_some_iff.1 kept
    exact ⟨k, i, b, l, hb, hl, placeOf_report hb hl few⟩

theorem places_placeOf (h : ofSource settings source = .ok c) :
    Places (Block.ofSource source) c (placeOf (Block.ofSource source) c) where
  statement {k i b l} hb hl many := by
    obtain ⟨s, hs⟩ := ofLine_of_two_le many
    obtain ⟨o, ho, grouped⟩ := groups_of_ofSource h hb
    obtain ⟨layer, hlayer, name, position⟩ := exists_layer_of_statement grouped hl hs
    exact ⟨s, o, _, layer, _, hs, placeOf_statement hb hl ho hs, ho, hlayer, name, position⟩
  report {k i b l} hb hl few := by
    refine ⟨_, placeOf_report hb hl few, ?_⟩
    rw [dropped_eq h, getElem?_flatMap_joinedBefore hb (keptBefore_dropped_lt hl few)]
    exact getElem?_filterMap_keptBefore hl (NumberedLine.dropped?_eq_some_iff.2 ⟨few, rfl⟩)
  ordered := placeOf_ordered h
  injective := placeOf_injective h
  surjective := placeOf_surjective h

/-! ## Counts and numbers -/

theorem statements_of_objects (h : ofSource settings source = .ok c) :
    c.objects.map (·.object.statementCount) =
      (Block.ofSource source).map fun b => (b.lines.filterMap NumberedLine.statement?).length := by
  refine List.ext_getElem? fun k => ?_
  rw [List.getElem?_map, List.getElem?_map]
  cases hb : (Block.ofSource source)[k]? with
  | none =>
    have outOfRange : c.objects[k]? = none := by
      rw [List.getElem?_eq_none_iff, length_objects h]
      exact List.getElem?_eq_none_iff.1 hb
    rw [outOfRange]
    rfl
  | some b =>
    obtain ⟨o, objectType, ho, object, -⟩ := exists_object h hb
    rw [ho, Option.map_some, Option.map_some, object, Object.statementCount_ofStatements]

theorem sum_statementCount_add_dropped (h : ofSource settings source = .ok c) :
    (c.objects.map (·.object.statementCount)).sum + c.dropped.length =
      (NumberedLine.ofSource source).length := by
  have lines := Block.flatMap_lines_split (NumberedLine.ofSource source)
  rw [statements_of_objects h, dropped_eq h, ← lines]
  show _ = ((Block.ofSource source).flatMap _).length
  -- Both sums run over the blocks, whatever these are.
  generalize Block.ofSource source = blocks
  induction blocks with
  | nil => rfl
  | cons b blocks ih =>
    have here := NumberedLine.length_statements_add_dropped b.lines
    simp only [List.map_cons, List.sum_cons, List.flatMap_cons, List.length_append] at ih ⊢
    omega

theorem pairwise_number_dropped (h : ofSource settings source = .ok c) :
    c.dropped.Pairwise (·.line.number < ·.line.number) := by
  rw [dropped_eq_filterMap h, List.pairwise_filterMap]
  refine (NumberedLine.pairwise_number_ofSource source).imp ?_
  intro l l' before d hd d' hd'
  obtain ⟨-, rfl⟩ := NumberedLine.dropped?_eq_some_iff.1 hd
  obtain ⟨-, rfl⟩ := NumberedLine.dropped?_eq_some_iff.1 hd'
  exact before

theorem objects_eq_nil_iff (h : ofSource settings source = .ok c) :
    c.objects = [] ↔ NumberedLine.ofSource source = [] := by
  rw [← List.length_eq_zero_iff, length_objects h, List.length_eq_zero_iff]
  exact Block.split_eq_nil_iff

/-- Compiling a source accounts for each of its lines.  The blocks hold the lines that count, each
    once and in order, and no block is empty; every line of a block has its own place in the
    compilation, and the compilation has no other places; and the report is in the order of the
    lines, which carry their numbers and their trimmed texts. -/
theorem lines_accounted_for (settings : Settings) (source : String) (c : Compilation)
    (h : ofSource settings source = .ok c) :
    (Block.ofSource source).flatMap (·.lines) = NumberedLine.ofSource source ∧
    (∀ b ∈ Block.ofSource source, b.lines ≠ []) ∧
    (∀ l ∈ NumberedLine.ofSource source,
      1 ≤ l.number ∧ (Text.lines source)[l.number - 1]?.map Text.trim = some l.text) ∧
    (∃ place, Places (Block.ofSource source) c place) ∧
    (c.objects.map (·.object.statementCount)).sum + c.dropped.length =
      (NumberedLine.ofSource source).length ∧
    c.dropped.Pairwise (·.line.number < ·.line.number) ∧
    (c.objects = [] ↔ NumberedLine.ofSource source = []) :=
  ⟨Block.flatMap_lines_split _, fun _ => Block.lines_ne_nil_of_mem_split,
    fun _ => NumberedLine.getElem?_of_mem_ofSource, ⟨_, places_placeOf h⟩,
    sum_statementCount_add_dropped h, pairwise_number_dropped h, objects_eq_nil_iff h⟩

theorem lines_accounted_for_mixed_blocks :
    ∃ c, ofSource {} "stray words\nLAMP > base > cone\nLAMP > shade\nBOX > side > cube" = .ok c ∧
      c.objects ≠ [] ∧ (c.objects.map (·.object.statementCount)).sum + c.dropped.length = 4 := by
  obtain ⟨c, h⟩ := exists_eq_ok
    (x := ofSource {} "stray words\nLAMP > base > cone\nLAMP > shade\nBOX > side > cube")
    (by decide +kernel)
  obtain ⟨-, -, -, -, total, -, empty⟩ := lines_accounted_for {} _ c h
  exact ⟨c, h, fun none => absurd (empty.1 none) (by decide +kernel),
    total.trans (by decide +kernel)⟩

end Compilation

end LayeredScene
