import RemoteClient.Json.Decoder
import RemoteClient.Proofs.Json.Grammar
import Mathlib.Algebra.Group.Int.Defs
import Mathlib.Algebra.Group.Nat.Defs
import Mathlib.Data.List.DropRight

namespace RemoteClient.Json

/-! ## Texts in quotes -/

theorem digitValue_digit {c : Char} {n : Nat} (digit : HexDigit c n) : digitValue? c = some n := by
  have small : ∀ n < 16, digitValue? n.digitChar = some n := by decide
  have capital : ∀ n < 16, digitValue? n.digitChar.toUpper = some n := by decide
  obtain ⟨below, rfl | rfl⟩ := digit
  · exact small n below
  · exact capital n below

theorem simpleEscape_escapes {e c : Char} (means : (e, c) ∈ escapes) :
    simpleEscape? e = some c := by
  have all : ∀ p ∈ escapes, simpleEscape? p.1 = some p.2 := by decide
  exact all (e, c) means

theorem byteCount_cons (c : Char) (s : List Char) : byteCount (c :: s) = c.utf8Size + byteCount s :=
  rfl

theorem readHex_digits {hex : List Char} {n : Nat} (digits : Hex hex n) (rest : List Char) :
    readHex (hex ++ rest) = .ok (n, rest) := by
  cases digits with
  | @digits a b c d w x y z first second third last =>
      have enough : ¬ byteCount ((a :: b :: c :: d :: rest).take 4) < 4 := by
        have sizes :=
          And.intro a.utf8Size_pos
            (And.intro b.utf8Size_pos (And.intro c.utf8Size_pos d.utf8Size_pos))
        simp only [List.take_succ_cons, List.take_zero, byteCount_cons]
        omega
      change readHex (a :: b :: c :: d :: rest) = _
      rw [readHex, if_neg enough]
      simp only [digitValue_digit first, digitValue_digit second, digitValue_digit third,
        digitValue_digit last]

section

variable {s : List Char} {c : Char}

theorem readChar_plain (shown : ' ' ≤ c) (unescaped : c ≠ '\\') (rest : List Char) :
    readChar (c :: rest) = .ok (c, rest) := by
  simp [readChar, Char.not_lt.mpr shown]

theorem readChar_short {e : Char} (means : (e, c) ∈ escapes) (rest : List Char) :
    readChar ('\\' :: e :: rest) = .ok (c, rest) := by
  have known := simpleEscape_escapes means
  have coded : e ≠ 'u' := by
    rintro rfl
    simp [simpleEscape?] at known
  simp [readChar, readEscape, known]

theorem readChar_code {hex : List Char} {n : Nat} (digits : Hex hex n)
    (whole : n < 0xd800 ∨ 0xdfff < n) (rest : List Char) :
    readChar ('\\' :: 'u' :: hex ++ rest) = .ok (Char.ofNat n, rest) := by
  have high : ¬ (0xdc00 ≤ n ∧ n ≤ 0xdfff) := by omega
  have low : ¬ (0xd800 ≤ n ∧ n ≤ 0xdbff) := by omega
  change readCode (hex ++ rest) = _
  simp only [readCode, readHex_digits digits rest, bind, Except.bind, if_neg high, if_neg low]
  rfl

theorem readChar_lead {hex : List Char} {lead : Nat} (digits : Hex hex lead)
    (leads : 0xd800 ≤ lead ∧ lead ≤ 0xdbff) (rest : List Char) :
    readChar ('\\' :: 'u' :: hex ++ rest) = readTrail lead rest := by
  have high : ¬ (0xdc00 ≤ lead ∧ lead ≤ 0xdfff) := by omega
  change readCode (hex ++ rest) = _
  simp only [readCode, readHex_digits digits rest, bind, Except.bind, if_neg high, if_pos leads]

theorem readChar_stray {hex : List Char} {n : Nat} (digits : Hex hex n)
    (stray : 0xdc00 ≤ n ∧ n ≤ 0xdfff) (rest : List Char) :
    readChar ('\\' :: 'u' :: hex ++ rest) = .error .malformed := by
  change readCode (hex ++ rest) = _
  simp only [readCode, readHex_digits digits rest, bind, Except.bind, if_pos stray]
  rfl

theorem readTrail_digits (lead : Nat) {hex : List Char} {trail : Nat} (digits : Hex hex trail)
    (rest : List Char) :
    readTrail lead ('\\' :: 'u' :: (hex ++ rest)) = if 0xdc00 ≤ trail ∧ trail ≤ 0xdfff then
        .ok (Char.ofNat (0x10000 + (lead - 0xd800) * 0x400 + (trail - 0xdc00)), rest)
      else .error .malformed := by
  simp only [readTrail, readHex_digits digits rest, bind, Except.bind]
  rfl

theorem readChar_spelled (spelled : Spelled s c) (rest : List Char) :
    readChar (s ++ rest) = .ok (c, rest) := by
  cases spelled with
  | plain shown _ unescaped => exact readChar_plain shown unescaped rest
  | short means => exact readChar_short means rest
  | code digits whole => exact readChar_code digits whole rest
  | @pair high low lead trail first second leads trails =>
      have whole := readChar_lead first leads ('\\' :: 'u' :: (low ++ rest))
      rw [readTrail_digits lead second rest, if_pos trails] at whole
      simpa only [List.cons_append, List.append_assoc] using whole

theorem spelled_head (spelled : Spelled s c) : ∃ first more, s = first :: more ∧ first ≠ '"' := by
  cases spelled with
  | plain _ unquoted => exact ⟨_, _, rfl, unquoted⟩
  | short | code | pair => exact ⟨_, _, rfl, by decide⟩

end

theorem readChars_spelled {pieces : List (List Char)} {cs : List Char}
    (spelled : List.Forall₂ Spelled pieces cs) (rest : List Char) (fuel : Nat)
    (enough : pieces.length < fuel) :
    readChars fuel (pieces.flatten ++ '"' :: rest) = .ok (cs, rest) := by
  induction spelled generalizing fuel with
  | nil =>
      obtain ⟨fuel, rfl⟩ := Nat.exists_eq_succ_of_ne_zero (Nat.ne_zero_of_lt enough)
      rfl
  | @cons piece c pieces cs first _ ih =>
      obtain ⟨fuel, rfl⟩ := Nat.exists_eq_succ_of_ne_zero (Nat.ne_zero_of_lt enough)
      have head := readChar_spelled first (pieces.flatten ++ '"' :: rest)
      have tail := ih fuel (by simpa using enough)
      obtain ⟨f, more, rfl, unquoted⟩ := spelled_head first
      simp only [List.flatten_cons, List.append_assoc, List.cons_append] at head ⊢
      rw [readChars]
      · simp only [head, tail, bind, Except.bind, pure, Except.pure]
      · exact fun _ quoted => unquoted (List.cons.inj quoted).1

theorem spelled_length {pieces : List (List Char)} {cs : List Char}
    (spelled : List.Forall₂ Spelled pieces cs) : pieces.length ≤ pieces.flatten.length := by
  induction spelled with
  | nil => simp
  | cons first _ ih =>
      obtain ⟨_, _, rfl, _⟩ := spelled_head first
      simp only [List.flatten_cons, List.length_append, List.length_cons]
      omega

theorem readText_spelled {pieces : List (List Char)} {cs : List Char}
    (spelled : List.Forall₂ Spelled pieces cs) (rest : List Char) :
    readText (pieces.flatten ++ '"' :: rest) = (.text (String.ofList cs), some rest) := by
  have enough : pieces.length < (pieces.flatten ++ '"' :: rest).length + 1 := by
    have counted := spelled_length spelled
    simp only [List.length_append]
    omega
  simp only [readText, readChars_spelled spelled rest _ enough]

theorem Quoted.starts {text : String} {s : List Char} (quoted : Quoted text s) :
    ∃ more, s = '"' :: more := by
  cases quoted with
  | spelled each => exact ⟨_, rfl⟩

/-! ## Numbers -/

/-- A number does not go on here. -/
def Detached (rest : List Char) : Prop :=
  ∀ c ∈ rest.head?, c.isDigit = false ∧ c ≠ '.' ∧ c ≠ 'e' ∧ c ≠ 'E'

theorem ofDigits_fits {digits : List Char} (fits : natOfDigits digits ≤ maxSignificand) :
    Significand.ofDigits digits = ⟨natOfDigits digits, 0⟩ := by
  induction digits using List.reverseRecOn with
  | nil => rfl
  | append_singleton digits c ih =>
      have longer :
          natOfDigits (digits ++ [c]) = natOfDigits digits * 10 + (c.toNat - '0'.toNat) := by
        simp [natOfDigits, Nat.mul_comm]
      rw [longer] at fits ⊢
      have shorter : Significand.ofDigits digits = ⟨natOfDigits digits, 0⟩ := ih (by omega)
      rw [Significand.ofDigits] at shorter ⊢
      rw [List.foldl_append, shorter]
      exact if_pos ⟨rfl, fits⟩

theorem toDigits_head {n : Nat} (positive : 0 < n) :
    ∃ first more, Nat.toDigits 10 n = first :: more ∧ first ≠ '0' := by
  induction n using Nat.strongRecOn with
  | ind n ih =>
      rcases Nat.lt_or_ge n 10 with small | large
      · have nonzero : ∀ m < 10, 0 < m → Nat.digitChar m ≠ '0' := by decide
        exact ⟨n.digitChar, [], Nat.toDigits_of_lt_base small, nonzero n small positive⟩
      · obtain ⟨first, more, digits, nonzero⟩ := ih (n / 10) (by omega) (by omega)
        exact ⟨first, more ++ [(n % 10).digitChar],
          by rw [Nat.toDigits_of_base_le (by decide) large, digits, List.cons_append], nonzero⟩

theorem digits_taken {digits rest : List Char} (each : ∀ c ∈ digits, c.isDigit)
    (stops : ∀ c ∈ rest.head?, c.isDigit = false) :
    (digits ++ rest).takeWhile Char.isDigit = digits ∧
      (digits ++ rest).dropWhile Char.isDigit = rest := by
  have finished : rest.takeWhile Char.isDigit = [] ∧ rest.dropWhile Char.isDigit = rest := by
    cases rest with
    | nil => exact ⟨rfl, rfl⟩
    | cons c rest => simp [stops c rfl]
  rw [List.takeWhile_append_of_pos each, List.dropWhile_append_of_pos each, finished.1, finished.2]
  exact ⟨List.append_nil _, rfl⟩

theorem readAfterInteger_detached {rest : List Char} (detached : Detached rest) (negative : Bool)
    (n : Numeral) : readAfterInteger negative n rest = finishNumber negative n rest := by
  cases rest with
  | nil => rfl
  | cons c rest =>
      obtain ⟨_, point, lower, upper⟩ := detached c rfl
      rw [readAfterInteger]
      · rw [readAfterFraction, if_neg (by simp [lower, upper])]
      · exact fun _ pointed => point (List.cons.inj pointed).1

theorem readNumber_digits {rest : List Char} (detached : Detached rest) (negative : Bool)
    (n : Nat) :
    readNumber negative (Nat.toDigits 10 n ++ rest)
      = finishNumber negative ⟨Nat.toDigits 10 n, none, none⟩ rest := by
  have digits : ∀ c ∈ Nat.toDigits 10 n, c.isDigit := fun c member =>
    Nat.isDigit_of_mem_toDigits (by decide) (by decide) member
  obtain ⟨taken, left⟩ := digits_taken digits fun c head => (detached c head).1
  simp only [readNumber, taken, left]
  rcases Nat.eq_zero_or_pos n with rfl | positive
  · exact readAfterInteger_detached detached negative _
  · obtain ⟨first, more, shape, nonzero⟩ := toDigits_head positive
    rw [shape]
    split
    next none => exact absurd none (List.cons_ne_nil first more)
    next zero => exact absurd (List.cons.inj zero).1 nonzero
    next => exact readAfterInteger_detached detached negative _

/-! ## Values -/

/-- The text is taken for the value wherever it stands. -/
def Reads (s : List Char) (v : Source) : Prop :=
  ∀ fuel rest, 2 * s.length < fuel → Detached rest → readValue fuel (s ++ rest) = (v, some rest)

structure ReadsKey (s : List Char) (key : Source) : Prop where
  reads : Reads s key
  starts : ∃ more, s = '"' :: more

def ReadsItems (s : List Char) (items : List Source) : Prop :=
  ∀ fuel rest, 2 * s.length ≤ fuel → readItems fuel (s ++ rest) = (.list items none, some rest)

def ReadsMembers (s : List Char) (members : List (Source × Source)) : Prop :=
  ∀ fuel rest, 2 * s.length ≤ fuel →
    readMembers fuel (s ++ rest) = (.object members none, some rest)

theorem Blank.isSpace {blank : List Char} (spaces : Blank blank) : ∀ c ∈ blank, isSpace c := by
  have all : ∀ c ∈ [' ', '\n', '\t', '\r'], Json.isSpace c := by simp [Json.isSpace]
  exact fun c member => all c (spaces c member)

theorem skipSpaces_blank {blank : List Char} (spaces : Blank blank) (s : List Char) :
    skipSpaces (blank ++ s) = skipSpaces s :=
  List.dropWhile_append_of_pos spaces.isSpace

theorem skipSpaces_blank_cons {blank : List Char} (spaces : Blank blank) {c : Char}
    (sign : isSpace c = false) (s : List Char) :
    skipSpaces (blank ++ c :: s) = c :: s := by
  rw [skipSpaces_blank spaces]
  simp [skipSpaces, sign]

theorem skipSpaces_twice (s : List Char) : skipSpaces (skipSpaces s) = skipSpaces s :=
  List.dropWhile_idempotent _ _

theorem readValue_skip (fuel : Nat) (s : List Char) :
    readValue fuel (skipSpaces s) = readValue fuel s := by
  cases fuel with
  | zero => rfl
  | succ fuel => rw [readValue, readValue, skipSpaces_twice]

theorem readItems_skip (fuel : Nat) (s : List Char) :
    readItems fuel (skipSpaces s) = readItems fuel s := by
  cases fuel with
  | zero => rfl
  | succ fuel => rw [readItems, readItems, readValue_skip]

theorem readMembers_skip (fuel : Nat) (s : List Char) :
    readMembers fuel (skipSpaces s) = readMembers fuel s := by
  cases fuel with
  | zero => rfl
  | succ fuel => simp only [readMembers, skipSpaces_twice]

theorem detached_cons {c : Char} {rest : List Char}
    (ends : c.isDigit = false ∧ c ≠ '.' ∧ c ≠ 'e' ∧ c ≠ 'E') : Detached (c :: rest) := by
  intro d member
  cases member
  exact ends

theorem space_detached {c : Char} (space : isSpace c) :
    c.isDigit = false ∧ c ≠ '.' ∧ c ≠ 'e' ∧ c ≠ 'E' := by
  simp only [isSpace, Bool.or_eq_true, decide_eq_true_eq] at space
  rcases space with ((rfl | rfl) | rfl) | rfl <;> decide

theorem blank_detached {blank : List Char} (spaces : Blank blank) {c : Char} {rest : List Char}
    (ends : c.isDigit = false ∧ c ≠ '.' ∧ c ≠ 'e' ∧ c ≠ 'E') : Detached (blank ++ c :: rest) := by
  cases blank with
  | nil => exact detached_cons ends
  | cons space blank => exact detached_cons (space_detached (spaces.isSpace space (by simp)))

section

variable {s t k gap blank : List Char} {v : Source} {items : List Source}
    {members : List (Source × Source)}

theorem Reads.spaced (spaces : Blank blank) (reads : Reads s v) : Reads (blank ++ s) v := by
  intro fuel rest enough detached
  rw [List.length_append] at enough
  rw [← readValue_skip, List.append_assoc, skipSpaces_blank spaces, readValue_skip]
  exact reads fuel rest (by omega) detached

theorem Quoted.reads {text : String} (quoted : Quoted text s) : Reads s (.text text) := by
  intro fuel rest enough _
  obtain ⟨fuel, rfl⟩ := Nat.exists_eq_succ_of_ne_zero (Nat.ne_zero_of_lt enough)
  cases quoted with
  | spelled each =>
      have read := readText_spelled each rest
      rw [String.ofList_toList] at read
      simpa [readValue, skipSpaces, isSpace] using read

theorem Quoted.readsKey {text : String} (quoted : Quoted text s) : ReadsKey s (.text text) :=
  ⟨quoted.reads, quoted.starts⟩

theorem reads_null : Reads "null".toList .null := by
  intro fuel rest enough _
  obtain ⟨fuel, rfl⟩ := Nat.exists_eq_succ_of_ne_zero (Nat.ne_zero_of_lt enough)
  simp [readValue, skipSpaces, isSpace, readWord]

theorem reads_bool (b : Bool) : Reads (if b then "true" else "false").toList (.bool b) := by
  intro fuel rest enough _
  obtain ⟨fuel, rfl⟩ := Nat.exists_eq_succ_of_ne_zero (Nat.ne_zero_of_lt enough)
  cases b <;> simp [readValue, skipSpaces, isSpace, readWord]

theorem reads_empty_list (spaces : Blank blank) :
    Reads ('[' :: blank ++ [']']) (.list [] none) := by
  intro fuel rest enough _
  obtain ⟨fuel, rfl⟩ := Nat.exists_eq_succ_of_ne_zero (Nat.ne_zero_of_lt enough)
  have closes := skipSpaces_blank_cons spaces (c := ']') rfl rest
  simp [readValue, show skipSpaces ('[' :: _) = '[' :: _ from rfl, closes]

theorem reads_empty_object (spaces : Blank blank) :
    Reads ('\x7b' :: blank ++ ['\x7d']) (.object [] none) := by
  intro fuel rest enough _
  obtain ⟨fuel, rfl⟩ := Nat.exists_eq_succ_of_ne_zero (Nat.ne_zero_of_lt enough)
  have closes := skipSpaces_blank_cons spaces (c := '\x7d') rfl rest
  simp [readValue, show skipSpaces ('\x7b' :: _) = '\x7b' :: _ from rfl, closes]

theorem ReadsItems.last (reads : Reads s v) (spaces : Blank blank) :
    ReadsItems (s ++ blank ++ [']']) [v] := by
  intro fuel rest enough
  simp only [List.length_append, List.length_singleton] at enough
  obtain ⟨fuel, rfl⟩ := Nat.exists_eq_succ_of_ne_zero (by omega : fuel ≠ 0)
  have item := reads fuel (blank ++ ']' :: rest) (by omega) (blank_detached spaces (by decide))
  have closes := skipSpaces_blank_cons spaces (c := ']') rfl rest
  simp only [List.append_assoc, List.cons_append, List.nil_append, readItems, item, closes]

theorem ReadsItems.next (reads : Reads s v) (spaces : Blank blank) (others : ReadsItems t items) :
    ReadsItems (s ++ blank ++ ',' :: t) (v :: items) := by
  intro fuel rest enough
  simp only [List.length_append, List.length_cons] at enough
  obtain ⟨fuel, rfl⟩ := Nat.exists_eq_succ_of_ne_zero (by omega : fuel ≠ 0)
  have item :=
    reads fuel (blank ++ ',' :: (t ++ rest)) (by omega) (blank_detached spaces (by decide))
  have goes := skipSpaces_blank_cons spaces (c := ',') rfl (t ++ rest)
  have more := others fuel rest (by omega)
  simp only [List.append_assoc, List.cons_append, readItems, item, goes, more, prependItem]

theorem ReadsItems.opens (reads : ReadsItems s items) (rest : List Char) :
    ∃ c more, skipSpaces (s ++ rest) = c :: more ∧ c ≠ ']' := by
  have read := reads (2 * s.length + 2) rest (by omega)
  rw [← readItems_skip] at read
  generalize skipSpaces (s ++ rest) = text at read
  cases text with
  | nil => simp [readItems, readValue, skipSpaces] at read
  | cons c more =>
      refine ⟨c, more, rfl, ?_⟩
      rintro rfl
      simp [readItems, readValue, skipSpaces, isSpace, broken, faulty] at read

theorem ReadsItems.list (reads : ReadsItems s items) : Reads ('[' :: s) (.list items none) := by
  intro fuel rest enough _
  rw [List.length_cons] at enough
  obtain ⟨fuel, rfl⟩ := Nat.exists_eq_succ_of_ne_zero (Nat.ne_zero_of_lt enough)
  obtain ⟨c, more, skipped, other⟩ := reads.opens rest
  have read := reads fuel rest (by omega)
  rw [← readItems_skip, skipped] at read
  simp [readValue, show skipSpaces ('[' :: _) = '[' :: _ from rfl, skipped, other, read]

theorem ofDigits_toDigits {n : Nat} (fits : n < 2 ^ 64) :
    Significand.ofDigits (Nat.toDigits 10 n) = ⟨n, 0⟩ := by
  have counted : natOfDigits (Nat.toDigits 10 n) = n := Nat.ofDigitChars_ten_toDigits
  rw [ofDigits_fits (by rw [counted]; exact Nat.le_sub_one_of_lt fits), counted]

theorem toDigits_first (n : Nat) :
    ∃ c more, Nat.toDigits 10 n = c :: more ∧ c.isDigit := by
  obtain ⟨c, more, shape⟩ := List.exists_cons_of_ne_nil (Nat.toDigits_ne_nil (n := n) (b := 10))
  have member : c ∈ Nat.toDigits 10 n := by rw [shape]; exact List.mem_cons_self
  exact ⟨c, more, shape, Nat.isDigit_of_mem_toDigits (by decide) (by decide) member⟩

theorem digit_unspaced {c : Char} (digit : c.isDigit) :
    isSpace c = false ∧ c ≠ 'n' ∧ c ≠ 't' ∧ c ≠ 'f' ∧ c ≠ '"' ∧ c ≠ '-' ∧ c ≠ '[' ∧ c ≠ '\x7b' := by
  refine ⟨?_, ?_, ?_, ?_, ?_, ?_, ?_, ?_⟩
  · by_contra space
    exact absurd digit (by rw [(space_detached (by simpa using space)).1]; decide)
  all_goals rintro rfl; exact absurd digit (by decide)

theorem reads_natural {n : Nat} (fits : n < 2 ^ 64) : Reads (Nat.toDigits 10 n) (.integer n) := by
  intro fuel rest enough detached
  obtain ⟨fuel, rfl⟩ := Nat.exists_eq_succ_of_ne_zero (Nat.ne_zero_of_lt enough)
  have number : readNumber false (Nat.toDigits 10 n ++ rest) = (.integer n, some rest) := by
    rw [readNumber_digits detached]
    simp [finishNumber, Numeral.toSource, ofDigits_toDigits fits]
  obtain ⟨c, more, shape, digit⟩ := toDigits_first n
  obtain ⟨unspaced, others⟩ := digit_unspaced digit
  rw [shape, List.cons_append] at number ⊢
  have starts : skipSpaces (c :: (more ++ rest)) = c :: (more ++ rest) := by
    simp [skipSpaces, unspaced]
  simp [readValue, starts, others, digit, number]

theorem reads_negative {n : Nat} (positive : 0 < n) (fits : n ≤ 2 ^ 63) :
    Reads ('-' :: Nat.toDigits 10 n) (.integer (-n)) := by
  intro fuel rest enough detached
  obtain ⟨fuel, rfl⟩ := Nat.exists_eq_succ_of_ne_zero (Nat.ne_zero_of_lt enough)
  have number : readNumber true (Nat.toDigits 10 n ++ rest) = (.integer (-n), some rest) := by
    have small : n ≤ 9223372036854775808 := fits
    rw [readNumber_digits detached]
    simp [finishNumber, Numeral.toSource, ofDigits_toDigits (n := n) (by omega), small,
      positive.ne']
  simpa [readValue, skipSpaces, isSpace] using number

def Fits (n : Int) : Prop := -2 ^ 63 ≤ n ∧ n < 2 ^ 64

theorem reads_integer {n : Int} (fits : Fits n) : Reads (toString n).toList (.integer n) := by
  obtain ⟨lower, upper⟩ := fits
  cases n with
  | ofNat n =>
      have shown : (toString (Int.ofNat n)).toList = Nat.toDigits 10 n := by
        simp [toString, Int.repr, Nat.repr_eq_ofList_toDigits]
      rw [shown]
      exact reads_natural (Int.ofNat_lt.mp upper)
  | negSucc n =>
      have shown : (toString (Int.negSucc n)).toList = '-' :: Nat.toDigits 10 (n + 1) := by
        simp [toString, Int.repr, Nat.repr_eq_ofList_toDigits]
      rw [shown]
      exact reads_negative (by omega) (by omega)

theorem readMembers_first {key : Source} (name : ReadsKey k key) (before : Blank gap)
    (reads : Reads s v) (spaces : Blank blank) (sign : Char) (unspaced : isSpace sign = false)
    (ends : sign.isDigit = false ∧ sign ≠ '.' ∧ sign ≠ 'e' ∧ sign ≠ 'E') (fuel : Nat)
    (rest : List Char) (enough : 2 * (k.length + gap.length + s.length) < fuel) :
    readMembers (fuel + 1) (k ++ gap ++ ':' :: s ++ blank ++ sign :: rest)
      = match sign :: rest with
        | '\x7d' :: rest => (.object [(key, v)] none, some rest)
        | ',' :: rest => prependMember (key, v) (readMembers fuel rest)
        | rest => (.object [(key, v)] (stopped rest), none) := by
  have first := name.reads fuel (gap ++ ':' :: (s ++ (blank ++ sign :: rest))) (by omega)
    (blank_detached before (by decide))
  have colon := skipSpaces_blank_cons before (c := ':') rfl (s ++ (blank ++ sign :: rest))
  have value := reads fuel (blank ++ sign :: rest) (by omega) (blank_detached spaces ends)
  have goes := skipSpaces_blank_cons spaces unspaced rest
  obtain ⟨more, rfl⟩ := name.starts
  simp only [List.append_assoc, List.cons_append] at first ⊢
  simp only [readMembers, show skipSpaces ('"' :: _) = '"' :: _ from rfl, List.head?_cons,
    beq_self_eq_true, first, colon, value]
  generalize skipSpaces (blank ++ sign :: rest) = ahead at goes ⊢
  subst goes
  rfl

theorem ReadsMembers.last {key : Source} (name : ReadsKey k key) (before : Blank gap)
    (reads : Reads s v) (spaces : Blank blank) :
    ReadsMembers (k ++ gap ++ ':' :: s ++ blank ++ ['\x7d']) [(key, v)] := by
  intro fuel rest enough
  simp only [List.length_append, List.length_cons] at enough
  obtain ⟨fuel, rfl⟩ := Nat.exists_eq_succ_of_ne_zero (by omega : fuel ≠ 0)
  have first :=
    readMembers_first name before reads spaces '\x7d' rfl (by decide) fuel rest (by omega)
  simpa only [List.append_assoc, List.cons_append, List.nil_append] using first

theorem ReadsMembers.next {key : Source} (name : ReadsKey k key) (before : Blank gap)
    (reads : Reads s v) (spaces : Blank blank) (others : ReadsMembers t members) :
    ReadsMembers (k ++ gap ++ ':' :: s ++ blank ++ ',' :: t) ((key, v) :: members) := by
  intro fuel rest enough
  simp only [List.length_append, List.length_cons] at enough
  obtain ⟨fuel, rfl⟩ := Nat.exists_eq_succ_of_ne_zero (by omega : fuel ≠ 0)
  have first :=
    readMembers_first name before reads spaces ',' rfl (by decide) fuel (t ++ rest) (by omega)
  simp only [others fuel rest (by omega), prependMember] at first
  simpa only [List.append_assoc, List.cons_append] using first

theorem ReadsMembers.spaced (spaces : Blank blank) (reads : ReadsMembers s members) :
    ReadsMembers (blank ++ s) members := by
  intro fuel rest enough
  rw [List.length_append] at enough
  rw [← readMembers_skip, List.append_assoc, skipSpaces_blank spaces, readMembers_skip]
  exact reads fuel rest (by omega)

theorem ReadsMembers.opens (reads : ReadsMembers s members) (rest : List Char) :
    ∃ more, skipSpaces (s ++ rest) = '"' :: more := by
  have read := reads (2 * s.length + 1) rest (by omega)
  rw [readMembers] at read
  cases skipped : skipSpaces (s ++ rest) with
  | nil => simp [skipped] at read
  | cons c more =>
      by_cases quote : c = '"'
      · exact ⟨more, by rw [quote]⟩
      · simp [skipped, quote] at read

theorem ReadsMembers.object (reads : ReadsMembers s members) :
    Reads ('\x7b' :: s) (.object members none) := by
  intro fuel rest enough _
  rw [List.length_cons] at enough
  obtain ⟨fuel, rfl⟩ := Nat.exists_eq_succ_of_ne_zero (Nat.ne_zero_of_lt enough)
  obtain ⟨more, skipped⟩ := reads.opens rest
  have read := reads fuel rest (by omega)
  rw [← readMembers_skip, skipped] at read
  simp [readValue, show skipSpaces ('\x7b' :: _) = '\x7b' :: _ from rfl, skipped, read]

theorem Items.reads {texts : List (List Char)} (filled : Items texts s)
    (each : List.Forall₂ Reads texts items) :
    ReadsItems s items := by
  induction filled generalizing items with
  | last ahead behind =>
      cases each with
      | cons reads none =>
          cases none
          exact .last (reads.spaced ahead) behind
  | next ahead behind _ ih =>
      cases each with
      | cons reads others => exact .next (reads.spaced ahead) behind (ih others)

theorem Listed.reads {texts : List (List Char)} (listed : Listed texts s)
    (each : List.Forall₂ Reads texts items) :
    Reads s (.list items none) := by
  cases listed with
  | empty spaces =>
      cases each
      exact reads_empty_list spaces
  | items filled => exact (filled.reads each).list

structure ReadsMember {κ : Type} (names : κ → List Char → Prop) (member : κ × List Char)
    (v : Source × Source) :
    Prop where
  key : ∀ {k : List Char}, names member.1 k → ReadsKey k v.1
  value : Reads member.2 v.2

theorem Members.reads {κ : Type} {names : κ → List Char → Prop} {texts : List (κ × List Char)}
    (filled : Members names texts s) (each : List.Forall₂ (ReadsMember names) texts members) :
    ReadsMembers s members := by
  induction filled generalizing members with
  | last named ahead between within behind =>
      cases each with
      | cons reads none =>
          cases none
          exact (ReadsMembers.last (reads.key named) between
            (reads.value.spaced within) behind).spaced ahead
  | next named ahead between within behind _ ih =>
      cases each with
      | cons reads others =>
          have value := reads.value.spaced within
          exact (ReadsMembers.next (reads.key named) between value behind (ih others)).spaced ahead

theorem Braced.reads {κ : Type} {names : κ → List Char → Prop} {texts : List (κ × List Char)}
    (braced : Braced names texts s) (each : List.Forall₂ (ReadsMember names) texts members) :
    Reads s (.object members none) := by
  cases braced with
  | empty spaces =>
      cases each
      exact reads_empty_object spaces
  | members filled => exact (filled.reads each).object

theorem blank_over (spaces : Blank blank) : Detached blank := by
  cases blank with
  | nil => exact fun c member => nomatch member
  | cons c blank => exact detached_cons (space_detached (spaces.isSpace c List.mem_cons_self))

theorem decode_reads {α : Type} {decoder : Source → Decoded α} {text : String}
    {before : List Char} (ahead : Blank before) (behind : Blank blank)
    (shown : text.toList = before ++ s ++ blank) (reads : Reads s v) :
    decode decoder text = decoder v := by
  have read : read text.toList = (v, some blank) := by
    rw [shown]
    refine reads.spaced ahead _ blank ?_ (blank_over behind)
    simp only [List.length_append]
    omega
  have nothing : skipSpaces blank = [] := List.dropWhile_eq_nil_iff.mpr behind.isSpace
  cases decoded : decoder v
    <;> simp [decode, read, decoded, nothing, bind, Except.bind, pure, Except.pure]

end

end RemoteClient.Json
