import Mathlib.Data.List.Infix
import RemoteClient.Toml.Printer
import RemoteClient.Toml.Text

namespace RemoteClient.Toml

def Quoting.Plain (q : Quoting) : Prop := isPlain q.quote = true ∧ q.quote ≠ '\\'

/-- The characters between the quotes for a text. Each piece means one character, and no piece
begins with what would end the text. -/
inductive Written (q : Quoting) : List Char → List Char → Prop
  | nil : Written q [] []
  | cons {piece s text : List Char} {c : Char}
      (means : ∀ rest, readPiece q (piece ++ rest) = some ([c], rest))
      (apart : ¬ delimiter q <+: piece ++ s) (more : Written q s text) :
      Written q (piece ++ s) (c :: text)

section

variable {q : Quoting} {s text : List Char}

theorem readPiece_plain {c : Char} (plain : isPlain c) (unescaped : c ≠ '\\' ∨ q.escapes = false)
    (rest : List Char) : readPiece q (c :: rest) = some ([c], rest) := by
  have kept : ¬ (c = '\\' ∧ q.escapes) := by
    rintro ⟨backslash, escapes⟩
    cases unescaped with
    | inl other => exact other backslash
    | inr none => exact absurd escapes (by simp [none])
  simp [readPiece, kept, plain]

theorem Written.quotes (plain : q.Plain) (written : Written q s text)
    (quotes : ∀ c ∈ s, c = q.quote) :
    text = s := by
  induction written with
  | nil => rfl
  | @cons piece s text c means apart more ih =>
      have taken := means []
      cases piece with
      | nil => exact absurd taken (by simp [readPiece])
      | cons first piece =>
          have quote : first = q.quote := quotes first (by simp)
          rw [List.append_nil, quote, readPiece_plain plain.1 (.inl plain.2)] at taken
          obtain ⟨rfl, rfl⟩ : q.quote = c ∧ piece = [] := by simpa using taken
          rw [ih fun c member => quotes c (by simp [member]), quote]
          rfl

theorem delimiter_line (line : q.lines = false) : delimiter q = [q.quote] := by
  simp [delimiter, line]

theorem delimiter_lines (lines : q.lines = true) : delimiter q = [q.quote, q.quote, q.quote] := by
  simp [delimiter, lines]

/-- The end of a text: quotes that belong to it, and those that close it. -/
theorem closing_quotes {rest : List Char} (finished : rest.head? ≠ some q.quote)
    (quotes : ∀ c ∈ s, c = q.quote) (apart : ¬ delimiter q <+: s) :
    closing? q (s ++ delimiter q ++ rest) = some (s, rest) := by
  cases lines : q.lines with
  | false =>
      rw [delimiter_line lines] at apart ⊢
      cases s with
      | nil => simp [closing?, lines]
      | cons a s => exact absurd ⟨s, by rw [quotes a (by simp)]; rfl⟩ apart
  | true =>
      rw [delimiter_lines lines] at apart ⊢
      -- No more than two quotes stand before the closing three.
      rcases s with _ | ⟨a, _ | ⟨b, _ | ⟨c, s⟩⟩⟩
      · cases rest <;> simp_all [closing?]
      · cases rest <;> simp_all [closing?]
      · cases rest <;> simp_all [closing?]
      · exact absurd
          ⟨s, by rw [quotes a (by simp), quotes b (by simp), quotes c (by simp)]; rfl⟩ apart

theorem closing_none {c : Char} (member : c ∈ s) (other : c ≠ q.quote) (apart : ¬ delimiter q <+: s)
    (rest : List Char) : closing? q (s ++ rest) = none := by
  cases lines : q.lines with
  | false =>
      rw [delimiter_line lines] at apart
      cases s with
      | nil => exact absurd member List.not_mem_nil
      | cons a s =>
          have first : a ≠ q.quote := fun same => apart ⟨s, by rw [same]; rfl⟩
          simp [closing?, lines, first]
  | true =>
      rw [delimiter_lines lines] at apart
      rcases s with _ | ⟨a, _ | ⟨b, _ | ⟨d, s⟩⟩⟩
      · exact absurd member List.not_mem_nil
      · rcases rest with _ | ⟨_, _ | ⟨_, _⟩⟩ <;> simp_all [closing?]
      · rcases rest with _ | ⟨_, _⟩ <;> simp_all [closing?]
        grind
      · have open' : ¬ (a = q.quote ∧ b = q.quote ∧ d = q.quote) := by
          rintro ⟨rfl, rfl, rfl⟩
          exact apart ⟨s, rfl⟩
        simp [closing?, lines, open']

/-- A text is read up to the first place where its end stands. -/
theorem readBody_written (plain : q.Plain) (written : Written q s text) {rest : List Char}
    (finished : rest.head? ≠ some q.quote) (fuel : Nat) (enough : s.length < fuel) :
    readBody q fuel (s ++ delimiter q ++ rest) = some (text, rest) := by
  induction written generalizing fuel with
  | nil =>
      obtain ⟨fuel, rfl⟩ := Nat.exists_eq_succ_of_ne_zero (Nat.ne_zero_of_lt enough)
      have closes :=
        closing_quotes (s := []) finished (by simp) (by cases h : q.lines <;> simp [delimiter, h])
      rw [readBody, closes]
  | @cons piece s text c means apart more ih =>
      obtain ⟨fuel, rfl⟩ := Nat.exists_eq_succ_of_ne_zero (Nat.ne_zero_of_lt enough)
      by_cases quotes : ∀ d ∈ piece ++ s, d = q.quote
      · have same := (Written.cons means apart more).quotes plain quotes
        rw [readBody, closing_quotes finished quotes apart, same]
      · obtain ⟨d, member, other⟩ : ∃ d ∈ piece ++ s, d ≠ q.quote := by simpa using quotes
        have longer : 0 < piece.length := by
          cases piece with
          | nil => exact absurd (means []) (by simp [readPiece])
          | cons => simp
        have later := ih fuel (by simp at enough; omega)
        have goes := closing_none member other apart (delimiter q ++ rest)
        simp only [List.append_assoc] at goes later ⊢
        simp only [readBody, goes, means, later, Option.bind_eq_bind, Option.bind_some]
        rfl

end

/-! ## What the printer writes -/

section

variable {text rest : List Char}

theorem hexValue_upperHexDigit : ∀ n < 16, hexValue? (upperHexDigit n) = some n := by decide

theorem readCode_unplain {c : Char} (unplain : ¬ isPlain c) (rest : List Char) :
    readCode 4 ('0' :: '0' :: upperHexDigit (c.toNat / 16) :: upperHexDigit (c.toNat % 16) :: rest)
      = some ([c], rest) := by
  have small : c.toNat < 128 := by
    by_contra large
    refine unplain ?_
    have shown : ' ' ≤ c := show 32 ≤ c.toNat by omega
    have other : c ≠ '\x7f' := by
      rintro rfl
      exact large (by decide)
    simp [isPlain, shown, other]
  have zero : hexValue? '0' = some 0 := rfl
  have high := hexValue_upperHexDigit (c.toNat / 16) (by omega)
  have low := hexValue_upperHexDigit (c.toNat % 16) (by omega)
  have whole : 16 * (c.toNat / 16) + c.toNat % 16 = c.toNat := Nat.div_add_mod c.toNat 16
  have valid : c.toNat.isValidChar := .inl (by omega)
  simp [readCode, readHex, zero, high, low, whole, charOfCode?, valid]

theorem readPiece_escapeChar {q : Quoting} (escapes : q.escapes = true) (run : Nat) (c : Char)
    (rest : List Char) : readPiece q (escapeChar q.lines run c ++ rest) = some ([c], rest) := by
  rw [escapeChar]
  split_ifs with quote few backslash back tab line lines page carriage plain
  · subst quote
    exact readPiece_plain rfl (.inl (by decide)) rest
  · subst quote
    simp [readPiece, escapes, readEscape]
  · subst backslash
    simp [readPiece, escapes, readEscape]
  · subst back
    simp [readPiece, escapes, readEscape]
  · subst tab
    simp [readPiece, escapes, readEscape]
  · subst line
    simp [readPiece, isPlain, lines]
  · subst line
    simp [readPiece, escapes, readEscape]
  · subst page
    simp [readPiece, escapes, readEscape]
  · subst carriage
    simp [readPiece, escapes, readEscape]
  · exact readPiece_plain plain (.inl backslash) rest
  · simp [readPiece, escapes, readEscape, readCode_unplain plain]

theorem escapeChar_other (lines : Bool) (run : Nat) {c : Char} (other : c ≠ '"') :
    ∃ first more, escapeChar lines run c = first :: more ∧ first ≠ '"' := by
  rw [escapeChar, if_neg other]
  split_ifs with backslash back tab line lines page carriage plain
  all_goals first | exact ⟨_, _, rfl, by decide⟩ | exact ⟨c, [], rfl, other⟩

/-- No more quotes stand together than may still come before three would. -/
theorem escapeFrom_apart (text : List Char) {run : Nat} (few : run ≤ 2) :
    ¬ List.replicate (3 - run) '"' <+: escapeFrom true run text := by
  induction text generalizing run with
  | nil =>
      obtain ⟨left, shape⟩ : ∃ left, 3 - run = left + 1 := ⟨2 - run, by omega⟩
      simp [shape, escapeFrom, List.replicate_succ]
  | cons c text ih =>
      obtain ⟨left, shape⟩ : ∃ left, 3 - run = left + 1 := ⟨2 - run, by omega⟩
      rw [shape, List.replicate_succ, escapeFrom]
      by_cases quote : c = '"'
      · subst quote
        by_cases room : run < 2
        · have same : 3 - (run + 1) = left := by omega
          have later : ¬ List.replicate (3 - (run + 1)) '"' <+: escapeFrom true (run + 1) text :=
            ih (by omega)
          rw [same] at later
          simpa [escapeChar, nextRun, room] using later
        · simp [escapeChar, room]
      · obtain ⟨first, more, escaped, other⟩ := escapeChar_other true run quote
        rw [escaped, List.cons_append, List.cons_prefix_cons]
        exact fun together => other together.1.symm

theorem nextRun_le {run : Nat} {c : Char} : nextRun run c ≤ 2 := by
  rw [nextRun]
  split_ifs <;> omega

theorem escapeFrom_written {q : Quoting} (escapes : q.escapes = true) (quote : q.quote = '"')
    (text : List Char) {run : Nat} (few : run ≤ 2) :
    Written q (escapeFrom q.lines run text) text := by
  induction text generalizing run with
  | nil => exact .nil
  | cons c text ih =>
      refine .cons (readPiece_escapeChar escapes run c) ?_ (ih nextRun_le)
      cases lines : q.lines with
      | false =>
          rw [delimiter_line lines, quote]
          by_cases same : c = '"'
          · simp [same, escapeChar]
          · obtain ⟨first, more, escaped, other⟩ := escapeChar_other false run same
            rw [escaped, List.cons_append, List.cons_prefix_cons]
            exact fun together => other together.1.symm
      | true =>
          rw [delimiter_lines lines, quote]
          intro triple
          refine escapeFrom_apart (c :: text) few (List.IsPrefix.trans ?_ triple)
          rw [show ['"', '"', '"'] = List.replicate (3 - run) '"' ++ List.replicate run '"' by
            rw [← List.replicate_add, Nat.sub_add_cancel (by omega)]; rfl]
          exact List.prefix_append _ _

theorem plain_written {q : Quoting} (literal : q.escapes = false) (text : List Char)
    (tame : ∀ c ∈ text, isPlain c ∨ c = '\n' ∧ q.lines = true)
    (apart : ∀ s, s <:+ text → s ≠ [] → ¬ delimiter q <+: s) : Written q text text := by
  induction text with
  | nil => exact .nil
  | cons c text ih =>
      have means (rest : List Char) : readPiece q ([c] ++ rest) = some ([c], rest) := by
        rcases tame c List.mem_cons_self with plain | ⟨rfl, lines⟩
        · exact readPiece_plain plain (.inr literal) rest
        · simp [readPiece, isPlain, literal, lines]
      exact .cons means (apart _ (List.suffix_refl _) (List.cons_ne_nil _ _))
        (ih (fun d member => tame d (List.mem_cons_of_mem c member))
          fun s tail => apart s (tail.trans (List.suffix_cons c text)))

theorem hasTriple_tail {quote a : Char} (single : hasTriple quote (a :: text) = false) :
    hasTriple quote text = false := by
  rcases text with _ | ⟨b, _ | ⟨c, text⟩⟩
  · rfl
  · rfl
  · simp only [hasTriple, Bool.or_eq_false_iff] at single
    exact single.2

theorem hasTriple_suffix {quote : Char} (single : hasTriple quote text = false) {s : List Char}
    (tail : s <:+ text) : ¬ [quote, quote, quote] <+: s := by
  induction text with
  | nil =>
      rw [List.suffix_nil.mp tail]
      simp
  | cons a text ih =>
      rcases List.suffix_cons_iff.mp tail with rfl | tail
      · rintro ⟨more, shape⟩
        rw [← shape] at single
        simp [hasTriple] at single
      · exact ih (hasTriple_tail single) tail

def written (q : Quoting) (text : List Char) : List Char :=
  if q.escapes then escapeFrom q.lines 0 text else text

theorem chooseQuoting_plain (text : List Char) : (chooseQuoting text).Plain := by
  rw [chooseQuoting]
  split_ifs <;> exact ⟨rfl, by decide⟩

theorem chooseQuoting_written (text : List Char) :
    Written (chooseQuoting text) (written (chooseQuoting text) text) text := by
  rw [chooseQuoting]
  split_ifs with basic literal lines literalLines broken
  · exact escapeFrom_written rfl rfl text (Nat.zero_le 2)
  · simp only [Bool.and_eq_true, Bool.not_eq_true', isTame, newlineIn] at literal
    obtain ⟨⟨tame, single⟩, unquoted⟩ := literal
    refine plain_written rfl text (fun c member => ?_) (fun s tail nonempty => ?_)
    · have kept := List.all_eq_true.mp tame c member
      have other : c ≠ '\n' := by
        rintro rfl
        simp [member] at single
      exact .inl (by simpa [other] using kept)
    · rintro ⟨more, rfl⟩
      have member : '\'' ∈ text := tail.subset (by simp [delimiter, Quoting.literal])
      simp [member] at unquoted
  · exact escapeFrom_written rfl rfl text (Nat.zero_le 2)
  · simp only [Bool.and_eq_true, Bool.not_eq_true', isTame] at literalLines
    refine plain_written rfl text (fun c member => ?_) (fun s tail _ => ?_)
    · have kept := List.all_eq_true.mp literalLines.1 c member
      simpa [Quoting.literalLines] using kept
    · exact hasTriple_suffix literalLines.2 tail
  · exact escapeFrom_written rfl rfl text (Nat.zero_le 2)
  · exact escapeFrom_written rfl rfl text (Nat.zero_le 2)

theorem afterNewline_none {c : Char} (line : c ≠ '\n') (carriage : c ≠ '\r') (s : List Char) :
    afterNewline? (c :: s) = none := by
  simp [afterNewline?, line, carriage]

theorem delimiter_starts (q : Quoting) : ∃ more, delimiter q = q.quote :: more := by
  cases lines : q.lines with
  | false => exact ⟨[], delimiter_line lines⟩
  | true => exact ⟨_, delimiter_lines lines⟩

theorem Quoting.Plain.unbroken {q : Quoting} (plain : q.Plain) :
    q.quote ≠ '\n' ∧ q.quote ≠ '\r' := by
  constructor <;> intro same <;> exact absurd plain.1 (by rw [same]; decide)

theorem Written.opens {q : Quoting} {s : List Char} (plain : q.Plain) (written : Written q s text)
    (single : '\n' ∉ text) (rest : List Char) :
    afterNewline? (s ++ delimiter q ++ rest) = none := by
  cases written with
  | nil =>
      obtain ⟨more, shape⟩ := delimiter_starts q
      rw [shape]
      exact afterNewline_none plain.unbroken.1 plain.unbroken.2 _
  | @cons piece s text c means apart more =>
      have taken := means []
      cases piece with
      | nil => exact absurd taken (by simp [readPiece])
      | cons first piece =>
          refine afterNewline_none ?_ ?_ _
          · rintro rfl
            have same : '\n' = c := by
              cases lines : q.lines <;> simp [readPiece, isPlain, lines] at taken
              exact taken.1
            exact single (same ▸ List.mem_cons_self)
          · rintro rfl
            rcases piece with _ | ⟨d, piece⟩
            · cases lines : q.lines <;> simp [readPiece, isPlain, lines] at taken
            · by_cases line : d = '\n' <;>
                cases lines : q.lines <;> simp [readPiece, isPlain, lines, line] at taken

theorem readQuoted_written {q : Quoting} {s : List Char} (plain : q.Plain)
    (written : Written q s text) (finished : rest.head? ≠ some q.quote) :
    readQuoted q ((if q.lines && newlineIn text then ['\n'] else []) ++ s ++ delimiter q ++ rest)
      = some (text, rest) := by
  have body := readBody_written plain written finished ((s ++ delimiter q ++ rest).length + 1)
    (by simp only [List.length_append]; omega)
  rw [readQuoted]
  by_cases lines : q.lines = true
  · by_cases broken : newlineIn text
    · simpa [lines, broken, afterNewline?] using body
    · have opens := written.opens plain (by simpa [newlineIn] using broken) rest
      rw [List.append_assoc] at opens
      simpa [lines, broken, opens] using body
  · simpa [lines] using body

def Clear (rest : List Char) : Prop := rest.head? ≠ some '"' ∧ rest.head? ≠ some '\''

theorem Clear.finished (clear : Clear rest) (text : List Char) :
    rest.head? ≠ some (chooseQuoting text).quote := by
  rw [chooseQuoting]
  split_ifs <;> first | exact clear.1 | exact clear.2

/-- Only a text on one line, where it is empty, might be taken for the begin of one on several. -/
theorem Written.unlike {q : Quoting} {s : List Char} (written : Written q s text)
    (line : q.lines = false) (finished : rest.head? ≠ some q.quote) :
    ¬ [q.quote, q.quote] <+: s ++ delimiter q ++ rest := by
  rw [delimiter_line line]
  cases written with
  | nil =>
      rintro ⟨more, shape⟩
      simp only [List.nil_append, List.cons_append, List.cons.injEq, true_and] at shape
      exact finished (by rw [← shape]; rfl)
  | @cons piece s text c means apart more =>
      rw [delimiter_line line] at apart
      have taken := means []
      cases piece with
      | nil => exact absurd taken (by simp [readPiece])
      | cons first piece =>
          simp only [List.cons_append, List.cons_prefix_cons, List.nil_prefix, and_true] at apart ⊢
          exact fun quotes => apart quotes.1

theorem readText_basic {tail : List Char} (unlike : ¬ ['"', '"'] <+: tail) :
    readText? ('"' :: tail) = readQuoted .basic tail := by
  rw [readText?]
  · rfl
  · exact fun more same => unlike ⟨more, (List.cons.inj same).2.symm⟩
  · exact fun _ other => absurd (List.cons.inj other).1 (by decide)

theorem readText_literal {tail : List Char} (unlike : ¬ ['\'', '\''] <+: tail) :
    readText? ('\'' :: tail) = readQuoted .literal tail := by
  rw [readText?]
  · rfl
  · exact fun _ other => absurd (List.cons.inj other).1 (by decide)
  · exact fun more same => unlike ⟨more, (List.cons.inj same).2.symm⟩

theorem readText_delimiter (text tail : List Char)
    (unlike : (chooseQuoting text).lines = false →
      ¬ [(chooseQuoting text).quote, (chooseQuoting text).quote] <+: tail) :
    readText? (delimiter (chooseQuoting text) ++ tail) = readQuoted (chooseQuoting text) tail := by
  revert unlike
  rw [chooseQuoting]
  split_ifs <;> intro unlike
  · exact readText_basic (unlike rfl)
  · exact readText_literal (unlike rfl)
  · rfl
  · rfl
  · rfl
  · exact readText_basic (unlike rfl)

/-- Any text is read back from the quotes it is printed in. -/
theorem readText_quoteChars (text : List Char) (clear : Clear rest) :
    readText? (quoteChars text ++ rest) = some (text, rest) := by
  have chosen := chooseQuoting_written text
  have finished := clear.finished text
  have read := readQuoted_written (chooseQuoting_plain text) chosen finished
  rw [quoteChars, quoteWith, ← written]
  simp only [List.append_assoc] at read ⊢
  rw [readText_delimiter]
  · exact read
  · intro line
    have unlike := chosen.unlike line finished
    simpa [line] using unlike

end

end RemoteClient.Toml
