import LayeredScene.Files.Store

/-! # Writing a file

A file that is written stands at its place and nothing else in the store changes.  Where paths lead
does not change either: that depends on the folders alone, and a folder is never written over.
-/

namespace LayeredScene

namespace Store

variable {s s' : Store} {p : Path} {bytes : List UInt8}

theorem write_eq_some (h : s.write p bytes = some s') :
    ∃ place, s.resolve p = some place ∧ s.isFolder place = false ∧
      s' = s.put place (.file bytes) := by
  unfold write at h
  split at h
  · cases h
  · next place leads =>
    split at h
    · cases h
    · next free => exact ⟨place, leads, by simpa using free, (Option.some.inj h).symm⟩

/-- The working folder and those above it are folders for good. -/
theorem not_prefix_of_isFolder_eq_false {place : Place} (h : s.isFolder place = false) :
    ¬ place <+: s.working := by
  intro above
  rw [isFolder, find?, if_pos above] at h
  cases h

theorem isFolder_put_file {place : Place} (free : s.isFolder place = false) (other : Place) :
    (s.put place (.file bytes)).isFolder other = s.isFolder other := by
  by_cases same : other = place
  · rw [same, free, isFolder, find?_put_self _ _ (not_prefix_of_isFolder_eq_false free)]
    rfl
  · rw [isFolder, find?_put_of_ne _ _ same, isFolder]

/-- No folder comes or goes. -/
theorem isFolder_of_write (h : s.write p bytes = some s') : s'.isFolder = s.isFolder := by
  obtain ⟨place, -, free, rfl⟩ := write_eq_some h
  exact funext (isFolder_put_file free)

/-- Paths lead where they led before. -/
theorem resolve_of_write (h : s.write p bytes = some s') : s'.resolve = s.resolve := by
  have folders := isFolder_of_write h
  obtain ⟨place, -, -, rfl⟩ := write_eq_some h
  have steps : (s.put place (.file bytes)).step = s.step := by
    funext other segment
    rw [step, step, folders, put]
  funext q
  rw [resolve, resolve, steps, start_put, route?_put]

theorem find?_of_write (h : s.write p bytes = some s') {other : Place}
    (elsewhere : s.resolve p ≠ some other) : s'.find? other = s.find? other := by
  obtain ⟨place, leads, -, rfl⟩ := write_eq_some h
  apply find?_put_of_ne
  rintro rfl
  exact elsewhere leads

theorem read_of_write (h : s.write p bytes = some s') : s'.read p = some bytes := by
  have still := congrFun (resolve_of_write h) p
  obtain ⟨place, leads, free, rfl⟩ := write_eq_some h
  rw [read, still, leads, Option.bind_some,
    find?_put_self _ _ (not_prefix_of_isFolder_eq_false free)]

/-- What is read depends on what stands where the path leads. -/
theorem read_congr (paths : s'.resolve p = s.resolve p)
    (entries : ∀ place, s.resolve p = some place → s'.find? place = s.find? place) :
    s'.read p = s.read p := by
  rw [read, read, paths]
  cases leads : s.resolve p with
  | none => rfl
  | some place => rw [Option.bind_some, Option.bind_some, entries place leads]

/-! ## Steps -/

/-- A step starts from a folder, and stays there, leads to the folder above it or to a name. -/
theorem step_cases {place next : Place} {segment : List Char}
    (h : s.step place segment = some next) : s.isFolder place ∧
      ((Path.isVoid segment ∧ next = place) ∨
      (Path.isVoid segment = false ∧ Path.isUp segment ∧ next = place.dropLast) ∨
      (Path.isVoid segment = false ∧ Path.isUp segment = false ∧
        next = place ++ [String.ofList segment])) := by
  unfold step at h
  split at h
  · cases h
  · next folder =>
    refine ⟨by simpa using folder, ?_⟩
    split at h
    · next void => exact .inl ⟨void, (Option.some.inj h).symm⟩
    · next leads =>
      refine .inr ?_
      have leads := Bool.eq_false_iff.mpr leads
      split at h
      · next up => exact .inl ⟨leads, up, (Option.some.inj h).symm⟩
      · next down =>
        simp only at h
        split at h
        · exact .inr ⟨leads, Bool.eq_false_iff.mpr down, (Option.some.inj h).symm⟩
        · cases h

/-- All folders above a place are there. -/
def Rooted (s : Store) (place : Place) : Prop :=
  ∀ above : Place, above <+: place → above ≠ place → s.isFolder above

/-- A path starts below folders only. -/
theorem rooted_start (s : Store) (p : Path) : s.Rooted (s.start p) := by
  intro above before _
  have working : above <+: s.working := by
    unfold start at before
    split at before
    · exact before.trans List.nil_prefix
    · exact before
  rw [isFolder, find?, if_pos working]
  rfl

theorem Rooted.dropLast {place : Place} (h : s.Rooted place) (there : s.isFolder place) :
    s.isFolder place.dropLast := by
  by_cases same : place.dropLast = place
  · rwa [same]
  · exact h _ (List.dropLast_prefix place) same

theorem Rooted.step {place next : Place} {segment : List Char} (h : s.Rooted place)
    (stepped : s.step place segment = some next) : s.Rooted next := by
  obtain ⟨folder, ⟨-, rfl⟩ | ⟨-, -, rfl⟩ | ⟨-, -, rfl⟩⟩ := step_cases stepped
  · exact h
  · intro above before other
    refine h above (before.trans (List.dropLast_prefix place)) ?_
    rintro rfl
    exact other (before.eq_of_length_le (by rw [List.length_dropLast]; omega))
  · intro above before other
    -- What stands above the place of a name is the folder of the name, or above that folder.
    obtain same | before := List.prefix_concat_iff.mp before
    · exact absurd same other
    · by_cases same : above = place
      · exact same ▸ folder
      · exact h above before same

theorem Rooted.foldlM {place next : Place} {route : List (List Char)} (h : s.Rooted place)
    (followed : route.foldlM s.step place = some next) : s.Rooted next := by
  induction route generalizing place with
  | nil =>
    cases followed
    exact h
  | cons segment route ih =>
    rw [List.foldlM_cons] at followed
    obtain ⟨middle, stepped, rest⟩ := Option.bind_eq_some_iff.mp followed
    exact ih (h.step stepped) rest

theorem route?_eq_some {route : List (List Char)} (h : s.route? p = some route) :
    route = Path.segments p.text.toList := by
  simp only [route?] at h
  split at h
  · cases h
  · exact (Option.some.inj h).symm

/-- The last segment of a path leads one step from a place whose folders are there. -/
theorem exists_step_of_resolve {front : List (List Char)} {segment : List Char}
    (segments : Path.segments p.text.toList = front ++ [segment]) {place : Place}
    (h : s.resolve p = some place) :
    ∃ folder, s.Rooted folder ∧ s.step folder segment = some place := by
  obtain ⟨route, followed, steps⟩ := Option.bind_eq_some_iff.mp h
  rw [route?_eq_some followed, segments, List.foldlM_append] at steps
  obtain ⟨folder, front, last⟩ := Option.bind_eq_some_iff.mp steps
  rw [List.foldlM_cons] at last
  obtain ⟨next, stepped, stays⟩ := Option.bind_eq_some_iff.mp last
  cases stays
  exact ⟨folder, (rooted_start s p).foldlM front, stepped⟩

/-- A path that ends in a name leads to a place of that name. -/
theorem getLast?_of_resolve {front : List (List Char)} {segment : List Char}
    (segments : Path.segments p.text.toList = front ++ [segment])
    (named : Path.isVoid segment = false ∧ Path.isUp segment = false) {place : Place}
    (h : s.resolve p = some place) : place.getLast? = some (String.ofList segment) := by
  obtain ⟨folder, -, stepped⟩ := exists_step_of_resolve segments h
  obtain ⟨-, ⟨void, -⟩ | ⟨-, up, -⟩ | ⟨-, -, rfl⟩⟩ := step_cases stepped
  · exact absurd void (by simp [named.1])
  · exact absurd up (by simp [named.2])
  · exact List.getLast?_concat

/-- A path that ends in no name leads to a folder. -/
theorem isFolder_of_resolve {front : List (List Char)} {segment : List Char}
    (segments : Path.segments p.text.toList = front ++ [segment])
    (unnamed : ¬(Path.isVoid segment = false ∧ Path.isUp segment = false)) {place : Place}
    (h : s.resolve p = some place) : s.isFolder place := by
  obtain ⟨folder, rooted, stepped⟩ := exists_step_of_resolve segments h
  obtain ⟨there, ⟨-, rfl⟩ | ⟨-, -, rfl⟩ | ⟨leads, down, -⟩⟩ := step_cases stepped
  · exact there
  · exact rooted.dropLast there
  · exact absurd ⟨leads, down⟩ unnamed

end Store

end LayeredScene
