import RemoteClient.Text.Lowercase

namespace RemoteClient.Text

def Fixed (c : Char) : Prop := c ≠ capitalSigma ∧ lowerChar c = [c]

theorem underscore_fixed : Fixed '_' := ⟨by decide, by decide⟩

theorem digit_fixed {c : Char} (digit : c.isDigit) : Fixed c := by
  have small : c.toNat < 65 := by
    simp only [Char.isDigit, Bool.and_eq_true, decide_eq_true_eq] at digit
    have upper : c.toNat ≤ 57 := digit.2
    omega
  have other {d : Char} (large : 65 ≤ d.toNat) : c ≠ d := by
    rintro rfl
    omega
  refine ⟨other (by decide), ?_⟩
  have unmapped : LowerRun.image? lowerRuns c.toNat = none := if_pos small
  rw [lowerChar, if_neg (other (by decide)), unmapped]
  rfl

theorem lower_fixed (before : List Char) {text : List Char} (fixed : ∀ c ∈ text, Fixed c) :
    lowerAfter before text = text := by
  induction text generalizing before with
  | nil => rfl
  | cons c rest ih =>
      obtain ⟨plain, same⟩ := fixed c List.mem_cons_self
      rw [lowerAfter, if_neg plain, same,
        ih _ fun d member => fixed d (List.mem_cons_of_mem c member)]
      rfl

theorem leads_underscore (text rest : List Char) :
    leadsToCased (text ++ '_' :: rest) = leadsToCased text := by
  induction text with
  | nil => rfl
  | cons c text ih =>
      by_cases ignored : isCaseIgnorable c
      · simpa [leadsToCased, ignored] using ih
      · simp [leadsToCased, ignored]

theorem lower_underscore (before text rest : List Char) :
    lowerAfter before (text ++ '_' :: rest) =
      lowerAfter before text ++ lowerAfter (text.reverse ++ before) ('_' :: rest) := by
  induction text generalizing before with
  | nil => rfl
  | cons c text ih =>
      rw [List.cons_append, lowerAfter, lowerAfter, ih, endsWord, endsWord, leads_underscore,
        List.append_assoc, List.reverse_cons, List.append_assoc]
      rfl

theorem lower_numbered (text : List Char) {digits : List Char} (numeric : ∀ c ∈ digits, c.isDigit) :
    lowerChars (text ++ '_' :: digits) = lowerChars text ++ '_' :: digits := by
  have fixed : ∀ c ∈ '_' :: digits, Fixed c := by
    intro c member
    rcases List.mem_cons.mp member with rfl | member
    · exact underscore_fixed
    · exact digit_fixed (numeric c member)
  rw [lowerChars, lower_underscore, lower_fixed _ fixed]
  rfl

end RemoteClient.Text
