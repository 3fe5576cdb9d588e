import RemoteClient.Proofs.Toml.Quotes
import RemoteClient.Toml.Reader

namespace RemoteClient.Toml

/-- Some number of lines is read as these statements, whatever comes after them. -/
def Lines (s : List Char) (statements : List Statement) : Prop :=
  ∃ count ≤ s.length, ∀ fuel rest, readStatements? (count + fuel) (s ++ rest)
    = (readStatements? fuel rest).map (statements ++ ·)

def Stands (s : List Char) (v : Value) : Prop :=
  (∃ c more, s = c :: more ∧ isBlank c = false) ∧
    ∀ fuel rest, readValue? (fuel + 1) 0 (s ++ '\n' :: rest) = some (v, '\n' :: rest)

structure Bare (key : String) : Prop where
  named : key.toList ≠ []
  each : ∀ c ∈ key.toList, isBare c

section

variable {s t : List Char} {first second : List Statement}

theorem Lines.none : Lines [] [] := by
  refine ⟨0, Nat.le_refl 0, fun fuel rest => ?_⟩
  rw [Nat.zero_add]
  exact Option.map_id'.symm

theorem Lines.append (lines : Lines s first) (others : Lines t second) :
    Lines (s ++ t) (first ++ second) := by
  obtain ⟨count, fits, reads⟩ := lines
  obtain ⟨more, fitsToo, readsToo⟩ := others
  refine ⟨count + more, by rw [List.length_append]; omega, fun fuel rest => ?_⟩
  rw [Nat.add_assoc, List.append_assoc, reads, readsToo, Option.map_map]
  congr 1
  funext statements
  exact (List.append_assoc ..).symm

theorem bare_unlike {c : Char} (bare : isBare c) :
    isBlank c = false ∧ c ≠ '#' ∧ c ≠ '\n' ∧ c ≠ '\r' ∧ c ≠ '[' ∧ c ≠ '\ufeff' := by
  refine ⟨?_, ?_, ?_, ?_, ?_, ?_⟩
  · by_contra blank
    simp only [isBlank, Bool.not_eq_false, Bool.or_eq_true, decide_eq_true_eq] at blank
    rcases blank with rfl | rfl <;> exact absurd bare (by decide)
  all_goals rintro rfl; exact absurd bare (by decide)

theorem skipBlanks_cons {c : Char} (shown : isBlank c = false) (s : List Char) :
    skipBlanks (c :: s) = c :: s := by
  simp [skipBlanks, shown]

theorem endLine_newline (rest : List Char) : endLine? ('\n' :: rest) = some rest := rfl

theorem endLine_other {c : Char} (shown : isBlank c = false) (text : c ≠ '#') (line : c ≠ '\n')
    (carriage : c ≠ '\r') (s : List Char) : endLine? (c :: s) = none := by
  simp [endLine?, skipBlanks_cons shown, skipComment, text, afterNewline_none line carriage]

theorem Lines.blank : Lines ['\n'] [] := by
  refine ⟨1, Nat.le_refl 1, fun fuel rest => ?_⟩
  rw [Nat.add_comm, readStatements?]
  simp [skipBlanks_cons, isBlank, endLine_newline]

theorem readStatements_statement {c : Char} (shown : isBlank c = false) (text : c ≠ '#')
    (line : c ≠ '\n') (carriage : c ≠ '\r') {statement : Statement} {rest : List Char}
    (reads : readStatement? (c :: s) = some (statement, '\n' :: rest)) (fuel : Nat) :
    readStatements? (1 + fuel) (c :: s) = (readStatements? fuel rest).map ([statement] ++ ·) := by
  rw [Nat.add_comm, readStatements?]
  simp only [skipBlanks_cons shown, endLine_other shown text line carriage, reads, endLine_newline,
    Option.bind_eq_bind, Option.bind_some]
  cases readStatements? fuel rest <;> rfl

theorem readDotted_bare {key : String} (bare : Bare key) (sign : Char) (ends : isBare sign = false)
    (rest : List Char) (single : ∀ more, skipBlanks (sign :: rest) ≠ '.' :: more) :
    readDotted? (key.toList ++ sign :: rest) = some ([key], sign :: rest) := by
  have taken : (key.toList ++ sign :: rest).takeWhile isBare = key.toList := by
    rw [List.takeWhile_append_of_pos bare.each]
    simp [ends]
  have left : (key.toList ++ sign :: rest).dropWhile isBare = sign :: rest := by
    rw [List.dropWhile_append_of_pos bare.each]
    simp [ends]
  have name : readKey? (key.toList ++ sign :: rest) = some (key, sign :: rest) := by
    rw [readKey?, taken, left]
    obtain ⟨c, more, chars⟩ := List.exists_cons_of_ne_nil bare.named
    have spelled : String.ofList (c :: more) = key := by rw [← chars, String.ofList_toList]
    simp only [chars, spelled]
  rw [readDotted?, readPath?, name]
  simp only [Option.bind_eq_bind, Option.bind_some]
  rfl

theorem Bare.starts {key : String} (bare : Bare key) :
    ∃ c more, key.toList = c :: more ∧ isBlank c = false ∧ c ≠ '#' ∧ c ≠ '\n' ∧ c ≠ '\r' ∧ c ≠ '['
      ∧ c ≠ '\ufeff' := by
  obtain ⟨c, more, chars⟩ := List.exists_cons_of_ne_nil bare.named
  exact ⟨c, more, chars, bare_unlike (bare.each c (chars ▸ List.mem_cons_self))⟩

theorem Lines.header {name : String} (bare : Bare name) :
    Lines ('[' :: name.toList ++ [']', '\n']) [.header [name]] := by
  refine ⟨1, by simp, fun fuel rest => ?_⟩
  have path := readDotted_bare bare ']' rfl ('\n' :: rest)
    (by simp [skipBlanks_cons, isBlank])
  obtain ⟨c, more, chars, shown, _, _, _, single, _⟩ := bare.starts
  rw [chars, List.cons_append] at path
  have reads : readStatement? ('[' :: c :: (more ++ ']' :: '\n' :: rest))
      = some (.header [name], '\n' :: rest) := by
    rw [readStatement?]
    · rw [readHeader?, readHeaderPath?, skipBlanks_cons shown, path]
      rfl
    · exact fun _ same => single (List.cons.inj same).1
  have line :=
    readStatements_statement (c := '[') rfl (by decide) (by decide) (by decide) reads fuel
  simpa [chars] using line

theorem Lines.assign {key : String} (bare : Bare key) {v : Value} (stands : Stands s v) :
    Lines (key.toList ++ [' ', '=', ' '] ++ s ++ ['\n']) [.assign [key] v] := by
  refine ⟨1, by simp only [List.length_append, List.length_cons]; omega, fun fuel rest => ?_⟩
  obtain ⟨⟨d, value, rfl, unblank⟩, reads⟩ := stands
  have path := readDotted_bare bare ' ' rfl ('=' :: ' ' :: (d :: value ++ '\n' :: rest))
    (by simp [skipBlanks, isBlank])
  obtain ⟨c, more, chars, shown, text, line, carriage, single, _⟩ := bare.starts
  rw [chars, List.cons_append] at path
  have assigned :
    readAssigned? false (c :: (more ++ ' ' :: '=' :: ' ' :: (d :: value ++ '\n' :: rest)))
      = some ([key], d :: value ++ '\n' :: rest) := by
    have equals (s : List Char) : skipBlanks (' ' :: '=' :: s) = '=' :: s := rfl
    have goes : skipBlanks (' ' :: d :: (value ++ '\n' :: rest)) = d :: (value ++ '\n' :: rest) :=
      skipBlanks_cons unblank _
    rw [List.cons_append] at path ⊢
    simp only [readAssigned?, path, Option.bind_eq_bind, Option.bind_some, skipAround,
      Bool.false_eq_true, if_false, equals, goes]
  have reads : readStatement? (c :: (more ++ ' ' :: '=' :: ' ' :: (d :: value ++ '\n' :: rest)))
      = some (.assign [key] v, '\n' :: rest) := by
    rw [readStatement?]
    · simp only [readAssignment?, assigned, Option.bind_eq_bind, Option.bind_some, reads]
      rfl
    · exact fun _ same => single (List.cons.inj same).1
    · exact fun _ same => single (List.cons.inj same).1
  have line := readStatements_statement shown text line carriage reads fuel
  simpa [chars] using line

theorem Lines.read {c : Char} (lines : Lines (c :: s) first) (marked : c ≠ '\ufeff') :
    read? (c :: s) = collect? first := by
  obtain ⟨count, fits, reads⟩ := lines
  have enough : (c :: s).length + 1 = count + ((c :: s).length - count + 1) := by omega
  have all := reads ((c :: s).length - count + 1) []
  rw [List.append_nil, ← enough] at all
  have finished (fuel : Nat) : readStatements? (fuel + 1) [] = some [] := rfl
  rw [finished] at all
  simp only [List.length_cons] at all
  simp [read?, marked, all]

theorem quoteChars_starts (text : List Char) :
    ∃ c more, quoteChars text = c :: more ∧ (c = '"' ∨ c = '\'') := by
  obtain ⟨more, shape⟩ := delimiter_starts (chooseQuoting text)
  refine ⟨(chooseQuoting text).quote, _, by rw [quoteChars, quoteWith, shape]; rfl, ?_⟩
  rw [chooseQuoting]
  split_ifs <;> simp [Quoting.basic, Quoting.literal, Quoting.basicLines, Quoting.literalLines]

theorem stands_text (text : String) : Stands (quote text).toList (.text text) := by
  obtain ⟨c, more, shape, quoted⟩ := quoteChars_starts text.toList
  rw [quote, String.toList_ofList]
  refine ⟨⟨c, more, shape, by rcases quoted with rfl | rfl <;> rfl⟩, fun fuel rest => ?_⟩
  have clear : Clear ('\n' :: rest) := ⟨by simp, by simp⟩
  have read := readText_quoteChars text.toList clear
  rw [shape, List.cons_append] at read ⊢
  rcases quoted with rfl | rfl <;> simp [readValue?, read]

theorem stands_flag (b : Bool) : Stands (if b then "true" else "false").toList (.bool b) := by
  cases b with
  | false =>
      refine ⟨⟨'f', _, rfl, rfl⟩, fun fuel rest => ?_⟩
      simp [readValue?, readScalar?, endsScalar, isBlank, date?, scalar?]
  | true =>
      refine ⟨⟨'t', _, rfl, rfl⟩, fun fuel rest => ?_⟩
      simp [readValue?, readScalar?, endsScalar, isBlank, date?, scalar?]

end

end RemoteClient.Toml
