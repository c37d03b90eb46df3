import LayeredScene.Output.Delivery
import LayeredScene.Proofs.Files.Parts
import LayeredScene.Proofs.Files.Writing
import LayeredScene.Proofs.Text.Separators

/-! # The paths of the GLB files of several objects

The file of an object has the stem of the output path, a number and an ending for its name, and it
stands where the output path would stand.  The number tells the files apart, and the name is no name
that has this stem, so that no file takes the place of the output path either.
-/

namespace LayeredScene.Glb

/-! ## Names -/

/-- The stem of the names of the files. -/
def fileStem (out : Path) : List Char :=
  (out.fileName?.map Path.stem).getD "scene".toList

/-- The name of the file of an object, which are counted from zero. -/
def numberedName (out : Path) (k : Nat) : List Char :=
  fileStem out ++ '-' :: ((toString (k + 1)).toList ++ ".glb".toList)

theorem filePath_eq (out : Path) {count : Nat} (several : 1 < count) (k : Nat) :
    filePath out k count = out.withFileName (String.ofList (numberedName out k)) := by
  rw [filePath, if_neg (by omega)]
  refine congrArg out.withFileName (String.toList_inj.mp ?_)
  rw [String.toList_ofList, numberedName, fileStem]
  cases out.fileName? <;> simp

theorem slash_notMem_numberedName (out : Path) (k : Nat) : '/' ∉ numberedName out k := by
  have stem : '/' ∉ fileStem out := by
    unfold fileStem
    cases named : out.fileName? with
    | none => decide
    | some name => exact fun slash => Path.slash_notMem_fileName named (Path.mem_of_mem_stem slash)
  rw [numberedName, List.mem_append, List.mem_cons, List.mem_append]
  have number := notMem_toString_of_isDigit (c := '/') (by decide) (k + 1)
  simp only [stem, number, false_or]
  decide

theorem isName_numberedName (out : Path) (k : Nat) :
    Path.isVoid (numberedName out k) = false ∧ Path.isUp (numberedName out k) = false := by
  apply Path.isName_of_length
  simp [numberedName]
  omega

theorem numberedName_injective {out : Path} {i j : Nat}
    (same : numberedName out i = numberedName out j) : i = j := by
  have number : (toString (i + 1)).toList = (toString (j + 1)).toList :=
    List.append_cancel_right (List.tail_eq_of_cons_eq (List.append_cancel_left same))
  exact Nat.succ.inj (Nat.repr_inj.mp (String.toList_inj.mp number))

/-- The stem of the name of a file is longer than the one that it was made with. -/
theorem stem_numberedName (out : Path) (k : Nat) :
    Path.stem (numberedName out k) = fileStem out ++ '-' :: (toString (k + 1)).toList := by
  have parts : numberedName out k =
      (fileStem out ++ '-' :: (toString (k + 1)).toList) ++ '.' :: "glb".toList := by
    simp [numberedName]
  rw [parts, Path.stem_append_dot (by simp) (by decide)]

/-- The name of a file is not the name that its stem was taken from. -/
theorem numberedName_ne_fileName {out : Path} {name : List Char} (named : out.fileName? = some name)
    (k : Nat) : numberedName out k ≠ name := by
  intro same
  have stem := stem_numberedName out k
  rw [same, fileStem, named, Option.map_some, Option.getD_some] at stem
  exact List.cons_ne_nil _ _ (List.append_right_eq_self.mp stem.symm)

/-! ## Paths -/

section

variable {count : Nat} (several : 1 < count)
include several

/-- The file of an object has its name behind segments that are the same for all of them. -/
theorem exists_segments_filePath (out : Path) :
    ∃ front, ∀ k, Path.segments (filePath out k count).text.toList =
      front ++ [numberedName out k] := by
  obtain ⟨front, segments⟩ := out.exists_segments_withFileName
  refine ⟨front, fun k => ?_⟩
  have single := slash_notMem_numberedName out k
  rw [filePath_eq out several, segments _ (by rwa [String.toList_ofList]), String.toList_ofList]

theorem fileName?_filePath (out : Path) (k : Nat) :
    (filePath out k count).fileName? = some (numberedName out k) := by
  obtain ⟨front, segments⟩ := exists_segments_filePath several out
  exact Path.fileName?_of_segments (segments k) (isName_numberedName out k)

/-- The files of different objects have different paths. -/
theorem components_filePath_ne (out : Path) {i j : Nat} (other : i ≠ j) :
    (filePath out i count).components ≠ (filePath out j count).components := by
  intro same
  have names : (filePath out i count).fileName? = (filePath out j count).fileName? := by
    rw [Path.fileName?_eq, Path.fileName?_eq, same]
  rw [fileName?_filePath several, fileName?_filePath several] at names
  exact other (numberedName_injective (Option.some.inj names))

/-- No file has the output path for its path. -/
theorem components_filePath_ne_self (out : Path) (k : Nat) :
    (filePath out k count).components ≠ out.components := by
  intro same
  have name : out.fileName? = some (numberedName out k) := by
    rw [Path.fileName?_eq, ← same, ← Path.fileName?_eq, fileName?_filePath several]
  exact numberedName_ne_fileName name k rfl

/-- The files stand in the folder of the output path. -/
theorem parent?_filePath {out : Path} (named : out.fileName?.isSome) (k : Nat) :
    (filePath out k count).parent? = out.parent? := by
  have single := slash_notMem_numberedName out k
  have leads := (isName_numberedName out k).1
  rw [filePath_eq out several]
  apply Path.parent?_withFileName named <;> rwa [String.toList_ofList]

/-! ## Places -/

theorem getLast?_of_resolve_filePath {s : Store} {out : Path} {k : Nat} {place : Place}
    (h : s.resolve (filePath out k count) = some place) :
    place.getLast? = some (String.ofList (numberedName out k)) := by
  obtain ⟨front, segments⟩ := exists_segments_filePath several out
  exact Store.getLast?_of_resolve (segments k) (isName_numberedName out k) h

/-- The files of different objects go to different places. -/
theorem apart_filePath (s : Store) (out : Path) {i j : Nat} (other : i ≠ j) {place : Place}
    (h : s.resolve (filePath out i count) = some place) :
    s.resolve (filePath out j count) ≠ some place := by
  intro h'
  have same := (getLast?_of_resolve_filePath several h).symm.trans
    (getLast?_of_resolve_filePath several h')
  exact other (numberedName_injective (String.ofList_inj.mp (Option.some.inj same)))

/-- The output path leads to a folder, or to a place where no file of an object goes. -/
theorem isFolder_or_resolve_filePath_ne (s : Store) {out : Path} {place : Place}
    (h : s.resolve out = some place) (k : Nat) :
    s.isFolder place ∨ s.resolve (filePath out k count) ≠ some place := by
  obtain ⟨front, last, segments⟩ :
      ∃ front last, Path.segments out.text.toList = front ++ [last] :=
    ⟨_, _, (List.dropLast_concat_getLast (Path.segments_ne_nil _)).symm⟩
  by_cases named : Path.isVoid last = false ∧ Path.isUp last = false
  · right
    intro h'
    have same := (Store.getLast?_of_resolve segments named h).symm.trans
      (getLast?_of_resolve_filePath several h')
    have name := Path.fileName?_of_segments segments named
    exact numberedName_ne_fileName name k (String.ofList_inj.mp (Option.some.inj same)).symm
  · exact .inl (Store.isFolder_of_resolve segments named h)

end

end LayeredScene.Glb
