import Mathlib.Data.List.Basic
import RemoteClient.Files.Disk

namespace RemoteClient.Files

theorem pieces_ne_nil (path : List Char) : pieces path ≠ [] := by
  cases path with
  | nil => exact List.cons_ne_nil _ _
  | cons c rest =>
      rw [pieces, List.foldr_cons]
      split
      · exact List.cons_ne_nil _ _
      · split <;> exact List.cons_ne_nil _ _

theorem pieces_slash (rest : List Char) : pieces ('/' :: rest) = [] :: pieces rest := by
  obtain ⟨first, more, split⟩ := List.exists_cons_of_ne_nil (pieces_ne_nil rest)
  rw [pieces, List.foldr_cons, ← pieces, split]
  rfl

theorem pieces_cons {c : Char} (other : c ≠ '/') {rest first : List Char} {more : List (List Char)}
    (split : pieces rest = first :: more) : pieces (c :: rest) = (c :: first) :: more := by
  rw [pieces, List.foldr_cons, ← pieces, split]
  exact if_neg other

theorem pieces_append (front back : List Char) :
    pieces (front ++ '/' :: back) = pieces front ++ pieces back := by
  induction front with
  | nil => exact pieces_slash back
  | cons c front ih =>
      obtain ⟨first, more, split⟩ := List.exists_cons_of_ne_nil (pieces_ne_nil front)
      by_cases slash : c = '/'
      · subst slash
        rw [List.cons_append, pieces_slash, pieces_slash, ih, List.cons_append]
      · have whole : pieces (front ++ '/' :: back) = first :: (more ++ pieces back) := by
          rw [ih, split, List.cons_append]
        rw [List.cons_append, pieces_cons slash whole, pieces_cons slash split, List.cons_append]

theorem pieces_whole {name : List Char} (whole : '/' ∉ name) : pieces name = [name] := by
  induction name with
  | nil => rfl
  | cons c rest ih =>
      rw [List.mem_cons, not_or] at whole
      exact pieces_cons (Ne.symm whole.1) (ih whole.2)

def namesOf (path : String) : List String :=
  ((pieces path.toList).filter (· ≠ [])).map String.ofList

structure IsName (name : String) : Prop where
  filled : name.toList ≠ []
  whole : '/' ∉ name.toList

section

variable {name : String}

theorem namesOf_name (named : IsName name) : namesOf name = [name] := by
  simp [namesOf, pieces_whole named.whole, named.filled]

theorem name_relative (named : IsName name) : isAbsolute name = false := by
  cases chars : name.toList with
  | nil => exact absurd chars named.filled
  | cons c rest =>
      have other : c ≠ '/' := by
        rintro rfl
        exact named.whole (chars ▸ List.mem_cons_self)
      simp [isAbsolute, chars, other]

theorem namesOf_join (dir : String) (named : IsName name) :
    namesOf (join dir name) = namesOf dir ++ [name] := by
  rw [join, name_relative named, Bool.false_or]
  split_ifs with nowhere slashed
  · rw [eq_of_beq nowhere, namesOf_name named]
    rfl
  · obtain ⟨front, ends⟩ : ∃ front, dir.toList = front ++ ['/'] :=
      List.getLast?_eq_some_iff.mp (eq_of_beq slashed)
    have whole : (dir ++ name).toList = front ++ '/' :: name.toList := by simp [ends]
    rw [namesOf, namesOf, whole, ends, pieces_append, pieces_append, pieces_whole named.whole]
    simp [named.filled, pieces]
  · have whole : (dir ++ "/" ++ name).toList = dir.toList ++ '/' :: name.toList := by simp
    rw [namesOf, namesOf, whole, pieces_append, pieces_whole named.whole]
    simp [named.filled]

theorem isAbsolute_join (dir : String) (named : IsName name) :
    isAbsolute (join dir name) = isAbsolute dir := by
  rw [join, name_relative named, Bool.false_or]
  split_ifs with nowhere slashed
  · rw [eq_of_beq nowhere, name_relative named]
    rfl
  all_goals
    have filled : dir.toList ≠ [] := fun empty => nowhere (by simpa using empty)
    obtain ⟨c, rest, chars⟩ := List.exists_cons_of_ne_nil filled
    simp [isAbsolute, chars]

end

end RemoteClient.Files
