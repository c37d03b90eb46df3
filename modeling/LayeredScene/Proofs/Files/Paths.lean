import LayeredScene.Files.Path
import LayeredScene.Proofs.Text.KeptLines
import Mathlib.Data.List.DropRight

/-! # Paths that end in a name

A name is put behind a folder with a slash between them, unless one is there already.  So the last
segment of such a path is the name, and the segments before it do not depend on the name.
-/

namespace LayeredScene

namespace Path

/-! ## Segments -/

theorem segments_append (before after : List Char) :
    segments (before ++ '/' :: after) = segments before ++ segments after :=
  Text.pieces_append_self before after

theorem segments_of_single {name : List Char} (single : '/' ∉ name) : segments name = [name] :=
  Text.pieces_of_not_mem single

theorem segments_ne_nil (cs : List Char) : segments cs ≠ [] :=
  Text.pieces_ne_nil _ cs

/-- Trimming is a function of the library, whose facts hold of it. -/
theorem trimVoid_eq : trimVoid = List.rdropWhile isVoid := rfl

theorem prefix_of_trimVoid (ss : List (List Char)) : trimVoid ss <+: ss :=
  trimVoid_eq ▸ List.rdropWhile_prefix isVoid ss

theorem trimVoid_trimVoid (ss : List (List Char)) : trimVoid (trimVoid ss) = trimVoid ss :=
  trimVoid_eq ▸ List.rdropWhile_idempotent isVoid ss

theorem trimVoid_concat {segment : List Char} (leads : isVoid segment = false)
    (front : List (List Char)) : trimVoid (front ++ [segment]) = front ++ [segment] := by
  rw [trimVoid_eq, List.rdropWhile_concat, leads, if_neg Bool.false_ne_true]

theorem trimVoid_concat_void {segment : List Char} (void : isVoid segment)
    (front : List (List Char)) : trimVoid (front ++ [segment]) = trimVoid front := by
  rw [trimVoid_eq, List.rdropWhile_concat, if_pos void]

/-! ## Names at the end -/

/-- A name is put behind a slash, unless there is nothing that it could be put behind. -/
theorem child_cases (folder : Path) :
    (folder.text.toList = [] ∧ ∀ name, (folder.child name).text.toList = name.toList) ∨
    (∃ cs, folder.text.toList = cs ++ ['/'] ∧
      ∀ name, (folder.child name).text.toList = cs ++ '/' :: name.toList) ∨
    (folder.text.toList ≠ [] ∧
      ∀ name, (folder.child name).text.toList = folder.text.toList ++ '/' :: name.toList) := by
  obtain empty | ⟨cs, c, chars⟩ := List.eq_nil_or_concat folder.text.toList
  · exact .inl ⟨empty, fun name => by simp [child, empty]⟩
  · rw [List.concat_eq_append] at chars
    refine .inr ?_
    by_cases slash : c = '/'
    · exact .inl ⟨cs, slash ▸ chars, fun name => by simp [child, chars, slash]⟩
    · exact .inr ⟨by simp [chars], fun name => by simp [child, chars]⟩

theorem exists_segments_child (folder : Path) :
    ∃ front, ∀ name : String, '/' ∉ name.toList →
      segments (folder.child name).text.toList = front ++ [name.toList] := by
  rcases folder.child_cases with ⟨-, chars⟩ | ⟨cs, -, chars⟩ | ⟨-, chars⟩
  · exact ⟨[], fun name single => by rw [chars, segments_of_single single, List.nil_append]⟩
  · exact ⟨segments cs, fun name single => by
      rw [chars, segments_append, segments_of_single single]⟩
  · exact ⟨segments folder.text.toList, fun name single => by
      rw [chars, segments_append, segments_of_single single]⟩

/-- Another name at the end of a path is the last segment, behind segments that are the same for
    every name. -/
theorem exists_segments_withFileName (p : Path) :
    ∃ front, ∀ name : String, '/' ∉ name.toList →
      segments (p.withFileName name).text.toList = front ++ [name.toList] := by
  unfold withFileName
  cases p.fileName? with
  | some _ => exact exists_segments_child (p.parent?.getD p)
  | none => exact exists_segments_child p

theorem slash_notMem_fileName {p : Path} {name : List Char} (h : p.fileName? = some name) :
    '/' ∉ name := by
  have last := (Option.filter_eq_some_iff.mp h).1
  exact Text.not_mem_of_mem_pieces ((prefix_of_trimVoid _).subset (List.mem_of_getLast? last))

theorem mem_of_mem_stem {name : List Char} {c : Char} (h : c ∈ stem name) : c ∈ name := by
  simp only [stem] at h
  split at h
  · exact h
  · rw [List.mem_reverse] at h
    exact List.mem_reverse.mp ((List.dropWhile_sublist _).subset (List.mem_of_mem_tail h))

/-- The stem of a name ends where what follows the last dot begins. -/
theorem stem_append_dot {before ext : List Char} (some : before ≠ []) (plain : '.' ∉ ext) :
    stem (before ++ '.' :: ext) = before := by
  have behind : ∀ c ∈ ext.reverse, (c != '.') = true := by
    intro c hc
    rw [bne_iff_ne]
    rintro rfl
    exact plain (List.mem_reverse.mp hc)
  have cut : (before ++ '.' :: ext).reverse.dropWhile (· != '.') = '.' :: before.reverse := by
    rw [List.reverse_append, List.reverse_cons, List.append_assoc,
      List.dropWhile_append_of_pos behind]
    rfl
  simp only [stem, cut]
  simp [some]

/-- The segments that are no names are dots, and at most two. -/
theorem isName_of_length {segment : List Char} (long : 2 < segment.length) :
    isVoid segment = false ∧ isUp segment = false := by
  have other {dots : List Char} (short : dots.length ≤ 2) : (segment == dots) = false := by
    rw [beq_eq_false_iff_ne]
    rintro rfl
    omega
  rw [isVoid, isUp, other (by decide), other (by decide), other (by decide)]
  exact ⟨rfl, rfl⟩

end Path

end LayeredScene
