import CloudAudit.Proofs.Text.Hexadecimal
import CloudAudit.Text.Lowercase

/-! Lowercasing around slashes. A slash ends every word, so the texts on both sides of one are
lowercased by themselves, and no other character becomes a slash. -/
namespace CloudAudit.Text

theorem meetsCased_cons (c : Char) (rest : List Char) :
    meetsCased (c :: rest) = if caseIgnorable.has c then meetsCased rest else cased.has c := by
  by_cases passed : caseIgnorable.has c = true
  · rw [if_pos passed, meetsCased, List.dropWhile_cons_of_pos passed, meetsCased]
  · rw [if_neg passed, meetsCased, List.dropWhile_cons_of_neg passed]

theorem meetsCased_slash (s t : List Char) : meetsCased (s ++ '/' :: t) = meetsCased s := by
  induction s with
  | nil => rfl
  | cons c rest ih => rw [List.cons_append, meetsCased_cons, meetsCased_cons, ih]

theorem lowercaseAfter_behind_slash (near far text : List Char) :
    lowercaseAfter (near ++ '/' :: far) text = lowercaseAfter near text := by
  induction text generalizing near with
  | nil => rfl
  | cons c rest ih =>
    rw [lowercaseAfter, lowercaseAfter, sigma, sigma, meetsCased_slash, ← List.cons_append, ih]

theorem smallLetters_slash : smallLetters '/' = ['/'] := by decide

theorem lowercaseAfter_slash (before s t : List Char) :
    lowercaseAfter before (s ++ '/' :: t) =
      lowercaseAfter before s ++ '/' :: lowercaseAfter [] t := by
  induction s generalizing before with
  | nil =>
    have apart := lowercaseAfter_behind_slash [] before t
    rw [List.nil_append] at apart
    simp [lowercaseAfter, smallLetters_slash, apart]
  | cons c rest ih =>
    rw [List.cons_append, lowercaseAfter, lowercaseAfter, sigma, sigma, meetsCased_slash, ih,
      List.append_assoc]

/-- A capital sigma ends its word in front of a slash as it does at the end of a text. -/
theorem lowercase_append_slash (s t : String) :
    lowercase (s ++ "/" ++ t) = lowercase s ++ "/" ++ lowercase t := by
  have cut : (s ++ "/" ++ t).toList = s.toList ++ '/' :: t.toList := by simp
  apply String.toList_injective
  simp [lowercase, cut, lowercaseAfter_slash]

theorem ofNat_ne_slash {code : Nat} (above : '/'.toNat < code) : Char.ofNat code ≠ '/' := by
  intro same
  have value := congrArg Char.toNat same
  by_cases valid : code.isValidChar
  · have kept := toNat_ofNat valid
    omega
  · rw [Char.ofNat, dif_neg valid] at value
    cases value

theorem count_slash_smallLetters (c : Char) : (smallLetters c).count '/' = [c].count '/' := by
  by_cases slash : c = '/'
  · rw [slash, smallLetters_slash]
  have apart : [c].count '/' = 0 := List.count_eq_zero.2 (by simpa using Ne.symm slash)
  rw [apart, List.count_eq_zero, smallLetters]
  split
  case isTrue => decide
  case isFalse =>
    split
    case h_1 block found =>
      have above : ∀ block ∈ capitals, '/'.toNat < block.image := by decide +kernel
      have image := above block (List.mem_of_find?_eq_some found)
      have small := ofNat_ne_slash (Nat.lt_add_right (c.toNat - block.first) image)
      simpa [CaseBlock.small] using small.symm
    case h_2 => simpa using Ne.symm slash

theorem count_slash_lowercaseAfter (before text : List Char) :
    (lowercaseAfter before text).count '/' = text.count '/' := by
  induction text generalizing before with
  | nil => rfl
  | cons c rest ih =>
    have sigmas : ∀ before after, [sigma before after].count '/' = 0 := by
      intro before after
      rw [sigma]
      split <;> rfl
    rw [lowercaseAfter, List.count_append, ih, ← List.singleton_append (x := c),
      List.count_append]
    split
    case isTrue capital => rw [sigmas, capital]; rfl
    case isFalse => rw [count_slash_smallLetters]

theorem count_slash_lowercase (s : String) :
    (lowercase s).toList.count '/' = s.toList.count '/' := by
  rw [lowercase, String.toList_ofList, count_slash_lowercaseAfter]

end CloudAudit.Text
