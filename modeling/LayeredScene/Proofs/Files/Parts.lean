import LayeredScene.Proofs.Files.Paths

/-! # The parts of a path

Where a path starts is read off its first characters, and what stands behind a slash makes no
difference to that (`Starts.append_slash`).  So a path that is written with a name behind its last
slash has that name (`fileName?_of_segments`).  Its parent is what the name was put behind, up to
void segments at the end (`parent?_child`), and another name in place of its own leaves a path its
parent (`parent?_withFileName`).
-/

namespace LayeredScene.Path

/-! ## Segments -/

theorem segments_intercalate {ss : List (List Char)} (some : ss ≠ [])
    (single : ∀ s ∈ ss, '/' ∉ s) : segments (['/'].intercalate ss) = ss :=
  Text.pieces_intercalate some single

theorem getLast?_cons_segments (first : List Char) (cs : List Char) :
    (first :: segments cs).getLast? = (segments cs).getLast? := by
  obtain ⟨segment, more, cons⟩ := List.exists_cons_of_ne_nil (segments_ne_nil cs)
  rw [cons, List.getLast?_cons_cons]

/-! ## Starts -/

/-- The ways in which a path can start, and what is left of it then. -/
inductive Starts : List Char → List Char → List Char → Prop where
  | root (rest : List Char) : Starts ('/' :: rest) ['/'] rest
  | here : Starts ['.'] ['.'] []
  | below (rest : List Char) : Starts ('.' :: '/' :: rest) ['.'] ('/' :: rest)
  | empty : Starts [] [] []
  | named (cs : List Char) {segment : List Char} {more : List (List Char)}
      (first : segments cs = segment :: more) (leads : isVoid segment = false) : Starts cs [] cs

section

variable {cs start rest : List Char}

theorem Starts.cutStart_eq (h : Starts cs start rest) : cutStart cs = (start, rest) := by
  cases h with
  | root | here | below | empty => rfl
  | named cs first leads =>
    unfold cutStart
    split
    -- Any other start has a void first segment.
    iterate 3
      · cases first
        cases leads
    · rfl

theorem starts_cutStart (cs : List Char) : Starts cs (cutStart cs).1 (cutStart cs).2 := by
  unfold cutStart
  split
  · exact .root _
  · exact .here
  · exact .below _
  · next noSlash noDot noDotSlash =>
    cases first : segments cs with
    | nil => exact absurd first (segments_ne_nil cs)
    | cons segment more =>
      by_cases void : isVoid segment
      · -- A void segment is all of the path, or a slash stands behind it.
        have joined : ['/'].intercalate (segment :: more) = cs := by
          rw [← first]
          exact Text.intercalate_pieces '/' cs
        simp only [isVoid, Bool.or_eq_true, beq_iff_eq] at void
        cases more with
        | nil =>
          rw [List.intercalate_singleton] at joined
          rcases void with rfl | rfl
          · obtain rfl := joined
            exact .empty
          · exact absurd joined.symm noDot
        | cons next more =>
          rw [List.intercalate_cons_cons] at joined
          rcases void with rfl | rfl
          · exact absurd joined.symm (noSlash _)
          · exact absurd joined.symm (noDotSlash _)
      · exact .named cs first (by simpa using void)

theorem Starts.parts_eq {p : Path} (h : Starts p.text.toList start rest) :
    p.parts = (start, trimVoid (segments rest)) := by
  rw [parts, h.cutStart_eq]

/-- What stands behind a slash makes no difference to the start. -/
theorem Starts.append_slash (h : Starts cs start rest) (some : cs ≠ []) (after : List Char) :
    Starts (cs ++ '/' :: after) start (rest ++ '/' :: after) := by
  cases h with
  | root rest => exact .root _
  | here => exact .below _
  | below rest => exact .below _
  | empty => exact absurd rfl some
  | @named _ segment more first leads =>
    have first : segments (cs ++ '/' :: after) = segment :: (more ++ segments after) := by
      rw [segments_append, first, List.cons_append]
    exact .named _ first leads

/-- A name at the end of a path stands behind its start. -/
theorem Starts.getLast?_segments (h : Starts cs start rest) {name : List Char}
    (leads : isVoid name = false) (last : (segments cs).getLast? = some name) :
    (segments rest).getLast? = some name := by
  cases h with
  | root rest => exact (getLast?_cons_segments [] rest).symm.trans last
  | here =>
    cases last
    cases leads
  | below rest =>
    exact (getLast?_cons_segments [] rest).trans
      ((getLast?_cons_segments ['.'] rest).symm.trans last)
  | empty | named => exact last

/-- The first segments behind the start of a path make a path with this start. -/
theorem Starts.of_prefix (h : Starts cs start rest) {front : List (List Char)}
    (before : front <+: segments rest) (trimmed : trimVoid front = front) :
    Starts (start ++ ['/'].intercalate front) start (['/'].intercalate front) := by
  -- A void segment cannot be the only one.
  have more {others : List (List Char)} (void : front = [] :: others) : others ≠ [] := by
    rintro rfl
    rw [void] at trimmed
    cases trimmed
  cases front with
  | nil =>
    cases h with
    | root => exact .root _
    | here | below => exact .here
    | empty | named => exact .empty
  | cons segment others =>
    cases h with
    | root => exact .root _
    | here | empty =>
      obtain ⟨rfl, rest⟩ := List.cons_prefix_cons.mp before
      exact absurd (List.prefix_nil.mp rest) (more rfl)
    | below rest =>
      obtain ⟨rfl, -⟩ := List.cons_prefix_cons.mp before
      rw [List.intercalate_cons_of_ne_nil (more rfl)]
      exact .below _
    | named cs first leads =>
      have single : ∀ s ∈ segment :: others, '/' ∉ s := fun s hs =>
        Text.not_mem_of_mem_pieces (before.subset hs)
      rw [first] at before
      obtain ⟨rfl, -⟩ := List.cons_prefix_cons.mp before
      exact .named _ (segments_intercalate (List.cons_ne_nil _ _) single) leads

end

/-! ## File names -/

/-- What stands behind the last slash is the file name, if it is a name. -/
theorem fileName?_of_segments {p : Path} {front : List (List Char)} {name : List Char}
    (last : segments p.text.toList = front ++ [name])
    (named : isVoid name = false ∧ isUp name = false) : p.fileName? = some name := by
  have starts := starts_cutStart p.text.toList
  have behind : (segments p.text.toList).getLast? = some name := by
    rw [last, List.getLast?_concat]
  obtain ⟨front, kept⟩ :=
    List.getLast?_eq_some_iff.mp (starts.getLast?_segments named.1 behind)
  rw [fileName?, starts.parts_eq, kept, trimVoid_concat named.1, List.getLast?_concat]
  simp [named.2]

/-- Where a path starts, and all its segments that lead somewhere.  Paths that agree in this are
    the same path, written in two ways. -/
def components (p : Path) : List Char × List (List Char) :=
  let (start, rest) := cutStart p.text.toList
  (start, (segments rest).filter (! isVoid ·))

/-- The file name is the last component, if that is a name. -/
theorem fileName?_eq (p : Path) : p.fileName? = p.components.2.getLast?.filter (! isUp ·) := by
  -- Both ask for the first segment from the end that is not void.
  have last (ss : List (List Char)) :
      (trimVoid ss).getLast? = (ss.filter (! isVoid ·)).getLast? := by
    rw [List.getLast?_filter, List.find?_eq_head?_dropWhile_not, trimVoid, List.getLast?_reverse]
    simp only [Bool.not_not]
  exact congrArg (Option.filter (! isUp ·)) (last _)

/-! ## Parents -/

/-- The folders that a path goes through make a path with its start and with them as segments. -/
theorem parts_ofParts {p : Path} {start rest : List Char} (h : Starts p.text.toList start rest)
    {front : List (List Char)} (before : front <+: segments rest)
    (trimmed : trimVoid front = front) : (ofParts start front).parts = (start, front) := by
  have starts := h.of_prefix before trimmed
  rw [Starts.parts_eq (p := ofParts start front) (by rwa [ofParts, String.toList_ofList])]
  cases front with
  | nil => rfl
  | cons segment others =>
    have single : ∀ s ∈ segment :: others, '/' ∉ s := fun s hs =>
      Text.not_mem_of_mem_pieces (before.subset hs)
    rw [segments_intercalate (List.cons_ne_nil _ _) single, trimmed]

/-- A name behind a folder stands behind the start and the segments of the folder. -/
theorem exists_starts_child (folder : Path) {name : String} (single : '/' ∉ name.toList)
    (leads : isVoid name.toList = false) :
    ∃ rest front, Starts (folder.child name).text.toList folder.parts.1 rest ∧
      segments rest = front ++ [name.toList] ∧ trimVoid front = folder.parts.2 := by
  have alone := segments_of_single single
  rcases folder.child_cases with ⟨empty, chars⟩ | ⟨cs, chars, added⟩ | ⟨some, added⟩
  · have starts : Starts folder.text.toList [] [] := empty ▸ .empty
    rw [chars, starts.parts_eq]
    exact ⟨_, [], .named _ alone leads, alone, rfl⟩
  · rw [added]
    by_cases root : cs = []
    · obtain rfl := root
      have starts : Starts folder.text.toList ['/'] [] := chars ▸ .root []
      rw [starts.parts_eq]
      exact ⟨_, [], .root _, alone, rfl⟩
    · -- The slash at the end of the folder makes one more void segment.
      have starts := (starts_cutStart cs).append_slash root []
      rw [← chars] at starts
      rw [starts.parts_eq]
      refine ⟨_, segments (cutStart cs).2, (starts_cutStart cs).append_slash root _, ?_, ?_⟩
      · rw [segments_append, alone]
      · rw [segments_append]
        exact (trimVoid_concat_void (show isVoid [] from rfl) _).symm
  · have starts := starts_cutStart folder.text.toList
    rw [added, starts.parts_eq]
    refine ⟨_, _, starts.append_slash some _, ?_, rfl⟩
    rw [segments_append, alone]

theorem parent?_child (folder : Path) {name : String} (single : '/' ∉ name.toList)
    (leads : isVoid name.toList = false) :
    (folder.child name).parent? = some (ofParts folder.parts.1 folder.parts.2) := by
  obtain ⟨rest, front, starts, behind, same⟩ := exists_starts_child folder single leads
  have kept := trimVoid_concat leads front
  simp [parent?, starts.parts_eq, behind, kept, same]

/-- Another name in place of its own leaves a path its parent. -/
theorem parent?_withFileName {p : Path} (named : p.fileName?.isSome) {name : String}
    (single : '/' ∉ name.toList) (leads : isVoid name.toList = false) :
    (p.withFileName name).parent? = p.parent? := by
  obtain ⟨own, named⟩ := Option.isSome_iff_exists.mp named
  have nonempty : p.parts.2.isEmpty = false := by
    have last := (Option.filter_eq_some_iff.mp named).1
    cases segments : p.parts.2 with
    | nil =>
      rw [segments] at last
      cases last
    | cons => rfl
  have parent : p.parent? = some (ofParts p.parts.1 (trimVoid p.parts.2.dropLast)) := by
    simp [parent?, nonempty]
  -- The folder of the path keeps its start and its segments as it is written down.
  have starts := starts_cutStart p.text.toList
  have before : trimVoid p.parts.2.dropLast <+: segments (cutStart p.text.toList).2 := by
    rw [starts.parts_eq]
    exact ((prefix_of_trimVoid _).trans (List.dropLast_prefix _)).trans (prefix_of_trimVoid _)
  have folder := parts_ofParts starts before (trimVoid_trimVoid _)
  have start : p.parts.1 = (cutStart p.text.toList).1 := by rw [starts.parts_eq]
  rw [withFileName, named, parent, Option.getD_some, parent?_child _ single leads, start, folder]

end LayeredScene.Path
