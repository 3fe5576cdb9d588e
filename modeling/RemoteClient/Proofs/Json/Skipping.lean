import RemoteClient.Proofs.Json.Reading

/-!
Whatever the grammar derives, the reader gets to the end of it, and nothing is found wrong with it
where it is only passed over: neither half a surrogate pair nor a number out of range.
-/

namespace RemoteClient.Json

/-! ## Texts -/

section

variable {s tail rest : List Char} {c : Char} {f : Fault} {piece : List Char}
    {pieces : List (List Char)}

theorem piece_head (written : Piece piece) : ∃ first more, piece = first :: more ∧ first ≠ '"' := by
  cases written with
  | plain _ unquoted => exact ⟨_, _, rfl, unquoted⟩
  | short | code => exact ⟨_, _, rfl, by decide⟩

theorem pieces_length (each : ∀ piece ∈ pieces, Piece piece) :
    pieces.length ≤ pieces.flatten.length := by
  induction pieces with
  | nil => simp
  | cons piece pieces ih =>
      obtain ⟨_, _, rfl, _⟩ := piece_head (each piece List.mem_cons_self)
      have others := ih fun other member => each other (List.mem_cons_of_mem _ member)
      simp only [List.flatten_cons, List.length_append, List.length_cons]
      omega

theorem skipChar_piece (written : Piece piece) (rest : List Char) :
    skipChar (piece ++ rest) = .ok rest := by
  cases written with
  | plain shown _ unescaped => simp [skipChar, unescaped, Char.not_lt.mpr shown]
  | @short e c means =>
      have known := simpleEscape_escapes means
      have coded : e ≠ 'u' := by
        rintro rfl
        simp [simpleEscape?] at known
      simp [skipChar, known]
  | code digits => simp [skipChar, readHex_digits digits, bind, Except.bind, pure, Except.pure]

theorem skipChars_pieces (each : ∀ piece ∈ pieces, Piece piece) (rest : List Char) (fuel : Nat)
    (enough : pieces.length < fuel) :
    skipChars fuel (pieces.flatten ++ '"' :: rest) = .ok rest := by
  induction pieces generalizing fuel with
  | nil =>
      obtain ⟨fuel, rfl⟩ := Nat.exists_eq_succ_of_ne_zero (Nat.ne_zero_of_lt enough)
      rfl
  | cons piece pieces ih =>
      obtain ⟨fuel, rfl⟩ := Nat.exists_eq_succ_of_ne_zero (Nat.ne_zero_of_lt enough)
      have first := each piece List.mem_cons_self
      have head := skipChar_piece first (pieces.flatten ++ '"' :: rest)
      have others :=
        ih (fun other member => each other (List.mem_cons_of_mem _ member)) fuel
          (by simpa using enough)
      obtain ⟨c, more, rfl, unquoted⟩ := piece_head first
      simp only [List.flatten_cons, List.append_assoc, List.cons_append] at head ⊢
      rw [skipChars]
      · simp only [head, others, bind, Except.bind]
      · exact fun _ quoted => unquoted (List.cons.inj quoted).1

theorem readChars_next {result : Except Fault (List Char)} {fuel : Nat} (unquoted : c ≠ '"')
    {d : Char} (reads : readChar (c :: s) = .ok (d, tail))
    (others : readChars fuel tail = result.map (·, rest)) :
    readChars (fuel + 1) (c :: s) = (result.map (d :: ·)).map (·, rest) := by
  rw [readChars]
  · cases result <;> simp [reads, others, bind, Except.bind, pure, Except.pure, Except.map]
  · exact fun _ quoted => unquoted (List.cons.inj quoted).1

theorem readChars_fault {fuel : Nat} (unquoted : c ≠ '"') (fails : readChar (c :: s) = .error f) :
    readChars (fuel + 1) (c :: s) = .error f := by
  rw [readChars]
  · simp [fails, bind, Except.bind]
  · exact fun _ quoted => unquoted (List.cons.inj quoted).1

theorem readTrail_pieces (lead : Nat) (each : ∀ piece ∈ pieces, Piece piece) :
    (∃ c piece more, pieces = piece :: more ∧
      ∀ rest, readTrail lead (pieces.flatten ++ '"' :: rest) =
        .ok (c, more.flatten ++ '"' :: rest)) ∨
    ∀ rest, readTrail lead (pieces.flatten ++ '"' :: rest) = .error .malformed := by
  cases pieces with
  | nil => exact .inr fun rest => rfl
  | cons piece more =>
      cases each piece List.mem_cons_self with
      | plain _ _ unescaped =>
          right
          intro rest
          simp [readTrail, unescaped]
      | @short e c means =>
          have coded : e ≠ 'u' := by
            rintro rfl
            simp [escapes] at means
          right
          intro rest
          simp [readTrail, coded]
      | @code hex n digits =>
          have trails (rest : List Char) :=
            readTrail_digits lead digits (more.flatten ++ '"' :: rest)
          by_cases trail : 0xdc00 ≤ n ∧ n ≤ 0xdfff
          · refine .inl ⟨Char.ofNat (0x10000 + (lead - 0xd800) * 0x400 + (n - 0xdc00)), _, more,
              rfl, fun rest => ?_⟩
            simpa only [List.flatten_cons, List.append_assoc, List.cons_append,
              if_pos trail] using trails rest
          · right
            intro rest
            simpa only [List.flatten_cons, List.append_assoc, List.cons_append,
              if_neg trail] using trails rest

theorem readChar_pieces {more : List (List Char)} (written : Piece piece)
    (others : ∀ other ∈ more, Piece other) :
    (∃ (d : Char) (after : List (List Char)), after.length ≤ more.length ∧
      (∀ other ∈ after, Piece other) ∧
      ∀ rest, readChar (piece ++ (more.flatten ++ '"' :: rest)) =
        .ok (d, after.flatten ++ '"' :: rest)) ∨
    ∀ rest, readChar (piece ++ (more.flatten ++ '"' :: rest)) = .error .malformed := by
  cases written with
  | plain shown _ unescaped =>
      exact .inl ⟨_, more, le_rfl, others, fun rest => readChar_plain shown unescaped _⟩
  | short means => exact .inl ⟨_, more, le_rfl, others, fun rest => readChar_short means _⟩
  | @code hex n digits =>
      by_cases whole : n < 0xd800 ∨ 0xdfff < n
      · exact .inl ⟨_, more, le_rfl, others, fun rest => readChar_code digits whole _⟩
      · by_cases leads : n ≤ 0xdbff
        · have lead (rest : List Char) :=
            readChar_lead digits ⟨by omega, leads⟩ (more.flatten ++ '"' :: rest)
          rcases readTrail_pieces n others with ⟨d, second, after, rfl, trails⟩ | fails
          · refine .inl ⟨d, after, by simp, fun other member => ?_,
              fun rest => (lead rest).trans (trails rest)⟩
            exact others other (List.mem_cons_of_mem _ member)
          · exact .inr fun rest => (lead rest).trans (fails rest)
        · exact .inr fun rest => readChar_stray digits (by omega) _

/-- What comes of the characters up to the closing quote does not depend on what follows. -/
theorem readChars_pieces (each : ∀ piece ∈ pieces, Piece piece) :
    ∃ result : Except Fault (List Char),
    ∀ fuel rest, pieces.length < fuel →
      readChars fuel (pieces.flatten ++ '"' :: rest) = result.map (·, rest) := by
  -- the second half of a surrogate pair is taken with the first, so one step can take two pieces
  induction size : pieces.length using Nat.strongRecOn generalizing pieces with
  | ind size ih =>
    subst size
    cases pieces with
    | nil =>
        refine ⟨.ok [], fun fuel rest enough => ?_⟩
        obtain ⟨fuel, rfl⟩ := Nat.exists_eq_succ_of_ne_zero (Nat.ne_zero_of_lt enough)
        rfl
    | cons piece more =>
        obtain ⟨first, others⟩ := List.forall_mem_cons.mp each
        obtain ⟨c, tail, rfl, unquoted⟩ := piece_head first
        rcases readChar_pieces first others with ⟨d, after, fewer, written, reads⟩ | fails
        · obtain ⟨result, goes⟩ := ih after.length (Nat.lt_succ_of_le fewer) written rfl
          refine ⟨result.map (d :: ·), fun fuel rest enough => ?_⟩
          obtain ⟨fuel, rfl⟩ := Nat.exists_eq_succ_of_ne_zero (Nat.ne_zero_of_lt enough)
          rw [List.flatten_cons, List.append_assoc, List.cons_append]
          exact readChars_next unquoted (reads rest) (goes fuel rest (by simp at enough; omega))
        · refine ⟨.error .malformed, fun fuel rest enough => ?_⟩
          obtain ⟨fuel, rfl⟩ := Nat.exists_eq_succ_of_ne_zero (Nat.ne_zero_of_lt enough)
          rw [List.flatten_cons, List.append_assoc, List.cons_append]
          exact readChars_fault unquoted (fails rest)

def textOf : Except Fault (List Char) → Source
  | .ok cs => .text (String.ofList cs)
  | .error strict => .unreadableText strict none

theorem AnyText.reads (any : AnyText s) :
    ∃ v, ReadsKey s v ∧ Source.passOver.passKey v = none ∧ v.passOver = none := by
  cases any with
  | @pieces pieces each =>
      obtain ⟨result, chars⟩ := readChars_pieces each
      have read (rest : List Char) :
          readText (pieces.flatten ++ '"' :: rest) = (textOf result, some rest) := by
        have enough : pieces.length < (pieces.flatten ++ '"' :: rest).length + 1 := by
          have counted := pieces_length each
          simp only [List.length_append]
          omega
        simp only [readText, chars _ rest enough, skipChars_pieces each rest _ enough]
        cases result <;> rfl
      refine ⟨textOf result, ⟨fun fuel rest enough _ => ?_, _, rfl⟩, ?_⟩
      · obtain ⟨fuel, rfl⟩ := Nat.exists_eq_succ_of_ne_zero (Nat.ne_zero_of_lt enough)
        simpa [readValue, skipSpaces, isSpace] using read rest
      · cases result <;> simp [textOf, Source.passOver, Source.passOver.passKey]

end

/-! ## Numbers -/

/-- What a number is taken for. One that is out of range does not matter where it is passed over. -/
def numberOf (negative : Bool) (n : Numeral) : Source :=
  (n.toSource negative).getD (.unreadable .malformed none)

theorem finishNumber_eq (negative : Bool) (n : Numeral) (rest : List Char) :
    finishNumber negative n rest = (numberOf negative n, some rest) := by
  unfold finishNumber numberOf
  cases n.toSource negative <;> rfl

theorem numberOf_passes (negative : Bool) (n : Numeral) :
    (numberOf negative n).passOver = none := by
  unfold numberOf Numeral.toSource
  dsimp only
  split
  · simp [Source.passOver]
  · split
    · simp [Source.passOver]
    · cases n.real? (Significand.ofDigits n.integer) <;> simp [Source.passOver, real]

section

variable {sign digits fraction exponent s : List Char}

theorem Digits.starts (digits : Digits s) : ∃ c more, s = c :: more ∧ c.isDigit := by
  obtain ⟨some, each⟩ := digits
  obtain ⟨c, more, rfl⟩ := List.exists_cons_of_ne_nil some
  exact ⟨c, more, rfl, each c List.mem_cons_self⟩

theorem readExponent_digits (negative : Bool) (n : Numeral)
    (signed : sign = [] ∨ sign = ['+'] ∨ sign = ['-']) (digits : Digits s) :
    ∃ m, ∀ rest, Detached rest →
      readExponent negative n (sign ++ (s ++ rest)) = finishNumber negative m rest := by
  have taken (rest : List Char) (detached : Detached rest) :=
    digits_taken digits.2 fun c (head : c ∈ rest.head?) => (detached c head).1
  have some : s.isEmpty = false := by simpa using digits.1
  have goes (minus : Bool) : ∀ rest, Detached rest →
      (let ds := (s ++ rest).takeWhile Char.isDigit
        if ds.isEmpty then stopNumber (s ++ rest)
        else finishNumber negative { n with exponent := .some (minus, ds) }
          ((s ++ rest).dropWhile Char.isDigit)) =
      finishNumber negative { n with exponent := .some (minus, s) } rest := by
    intro rest detached
    simp [taken rest detached, some]
  rcases signed with rfl | rfl | rfl
  · obtain ⟨c, more, rfl, digit⟩ := digits.starts
    refine ⟨{ n with exponent := .some (false, c :: more) }, fun rest detached => ?_⟩
    have plus : c ≠ '+' := by rintro rfl; exact absurd digit (by decide)
    have minus : c ≠ '-' := by rintro rfl; exact absurd digit (by decide)
    have read := goes false rest detached
    simp only [List.cons_append] at read
    simpa [readExponent, plus, minus] using read
  · exact ⟨_, goes false⟩
  · exact ⟨_, goes true⟩

theorem exponent_stops (scaled : Exponent exponent) {rest : List Char} (detached : Detached rest) :
    ∀ c ∈ (exponent ++ rest).head?, c.isDigit = false ∧ c ≠ '.' := by
  intro c head
  cases scaled with
  | none => exact ⟨(detached c head).1, (detached c head).2.1⟩
  | digits marks =>
      cases head
      rcases marks with rfl | rfl <;> decide

theorem readAfterFraction_exponent (negative : Bool) (n : Numeral) (scaled : Exponent exponent) :
    ∃ m, ∀ rest, Detached rest →
      readAfterFraction negative n (exponent ++ rest) = finishNumber negative m rest := by
  cases scaled with
  | none =>
      refine ⟨n, fun rest detached => ?_⟩
      cases rest with
      | nil => rfl
      | cons c rest =>
          obtain ⟨_, _, lower, upper⟩ := detached c rfl
          simp [readAfterFraction, lower, upper]
  | digits marks signed digits =>
      obtain ⟨m, reads⟩ := readExponent_digits negative n signed digits
      refine ⟨m, fun rest detached => ?_⟩
      simp only [List.cons_append, List.append_assoc]
      rw [readAfterFraction, if_pos marks]
      exact reads rest detached

theorem readAfterInteger_fraction (negative : Bool) (n : Numeral) (fractional : Fraction fraction)
    (scaled : Exponent exponent) : ∃ m, ∀ rest, Detached rest →
      readAfterInteger negative n (fraction ++ (exponent ++ rest)) =
        finishNumber negative m rest := by
  cases fractional with
  | none =>
      obtain ⟨m, reads⟩ := readAfterFraction_exponent negative n scaled
      refine ⟨m, fun rest detached => ?_⟩
      rw [List.nil_append, readAfterInteger]
      · exact reads rest detached
      · intro more pointed
        exact (exponent_stops scaled detached '.' (by rw [pointed]; rfl)).2 rfl
  | @digits ds digits =>
      obtain ⟨m, reads⟩ := readAfterFraction_exponent negative { n with fraction := some ds } scaled
      refine ⟨m, fun rest detached => ?_⟩
      have taken := digits_taken digits.2 fun c head => (exponent_stops scaled detached c head).1
      have filled : ds.isEmpty = false := by simpa using digits.1
      simpa [readAfterInteger, taken, filled] using reads rest detached

theorem fraction_stops (fractional : Fraction fraction) (scaled : Exponent exponent)
    {rest : List Char} (detached : Detached rest) :
    ∀ c ∈ (fraction ++ (exponent ++ rest)).head?, c.isDigit = false := by
  intro c head
  cases fractional with
  | none => exact (exponent_stops scaled detached c head).1
  | digits =>
      cases head
      rfl

theorem readNumber_parts (negative : Bool) (whole : Digits digits)
    (plain : digits.head? = some '0' → digits = ['0']) (fractional : Fraction fraction)
    (scaled : Exponent exponent) :
    ∃ m, ∀ rest, Detached rest →
      readNumber negative (digits ++ (fraction ++ (exponent ++ rest))) =
        finishNumber negative m rest := by
  obtain ⟨m, reads⟩ := readAfterInteger_fraction negative ⟨digits, none, none⟩ fractional scaled
  refine ⟨m, fun rest detached => ?_⟩
  obtain ⟨taken, left⟩ := digits_taken whole.2 (fraction_stops fractional scaled detached)
  simp only [readNumber, taken, left]
  split
  next => exact absurd rfl whole.1
  next => simp at plain
  next => exact reads rest detached

theorem Number.reads (number : Number s) : ∃ v, Reads s v ∧ v.passOver = none := by
  cases number with
  | @parts sign whole fraction exponent signed digits plain fractional scaled =>
      rcases signed with rfl | rfl
      case inl =>
        obtain ⟨m, reads⟩ := readNumber_parts false digits plain fractional scaled
        refine ⟨numberOf false m, fun fuel rest enough detached => ?_, numberOf_passes false m⟩
        obtain ⟨fuel, rfl⟩ := Nat.exists_eq_succ_of_ne_zero (Nat.ne_zero_of_lt enough)
        have read := reads rest detached
        obtain ⟨c, more, rfl, digit⟩ := digits.starts
        obtain ⟨unspaced, others⟩ := digit_unspaced digit
        rw [finishNumber_eq] at read
        simp only [List.cons_append, List.nil_append, List.append_assoc] at read ⊢
        have starts : skipSpaces (c :: (more ++ (fraction ++ (exponent ++ rest)))) =
            c :: (more ++ (fraction ++ (exponent ++ rest))) := by simp [skipSpaces, unspaced]
        simp [readValue, starts, others, digit, read]
      case inr =>
        obtain ⟨m, reads⟩ := readNumber_parts true digits plain fractional scaled
        refine ⟨numberOf true m, fun fuel rest enough detached => ?_, numberOf_passes true m⟩
        obtain ⟨fuel, rfl⟩ := Nat.exists_eq_succ_of_ne_zero (Nat.ne_zero_of_lt enough)
        have read := reads rest detached
        rw [finishNumber_eq] at read
        simpa [readValue, skipSpaces, isSpace] using read

end

/-! ## Values -/

section

open Source.passOver (passItems passKey passMembers)

theorem items_pass {items : List (List Char)}
    (each : ∀ item ∈ items, ∃ v, Reads item v ∧ v.passOver = none) :
    ∃ vs, List.Forall₂ Reads items vs ∧ passItems vs = none := by
  induction items with
  | nil => exact ⟨[], .nil, by simp [passItems]⟩
  | cons item items ih =>
      obtain ⟨v, reads, passes⟩ := each item List.mem_cons_self
      obtain ⟨vs, others, pass⟩ := ih fun other member => each other (List.mem_cons_of_mem _ member)
      exact ⟨v :: vs, .cons reads others, by simp [passItems, passes, pass]⟩

theorem members_pass {members : List (List Char × List Char)} (keys : ∀ m ∈ members, AnyText m.1)
    (each : ∀ m ∈ members, ∃ v, Reads m.2 v ∧ v.passOver = none) :
    ∃ vs, List.Forall₂ (ReadsMember (· = ·)) members vs ∧ passMembers vs = none := by
  induction members with
  | nil => exact ⟨[], .nil, by simp [passMembers]⟩
  | cons member members ih =>
      obtain ⟨key, named, plain, _⟩ := (keys member List.mem_cons_self).reads
      obtain ⟨v, reads, passes⟩ := each member List.mem_cons_self
      obtain ⟨vs, others, pass⟩ :=
        ih (fun other inside => keys other (List.mem_cons_of_mem _ inside))
        fun other inside => each other (List.mem_cons_of_mem _ inside)
      refine ⟨(key, v) :: vs, .cons ⟨fun same => same ▸ named, reads⟩ others, ?_⟩
      simp [passMembers, plain, passes, pass]

/-- Whatever is JSON is read to its end, and can be passed over. -/
theorem AnyJson.reads {s : List Char} (any : AnyJson s) : ∃ v, Reads s v ∧ v.passOver = none := by
  induction any with
  | null => exact ⟨.null, reads_null, by simp [Source.passOver]⟩
  | bool b => exact ⟨.bool b, reads_bool b, by simp [Source.passOver]⟩
  | number number => exact number.reads
  | text text =>
      obtain ⟨v, named, _, passes⟩ := text.reads
      exact ⟨v, named.reads, passes⟩
  | list _ listed each =>
      obtain ⟨vs, reads, pass⟩ := items_pass each
      exact ⟨.list vs none, listed.reads reads, by simp [Source.passOver, pass]⟩
  | object keys _ braced each =>
      obtain ⟨vs, reads, pass⟩ := members_pass keys each
      exact ⟨.object vs none, braced.reads reads, by simp [Source.passOver, pass]⟩

end

end RemoteClient.Json
