import CloudAudit.Proofs.Text.Hexadecimal
import CloudAudit.Text.Lowercase

/-! Lowercasing twice. No small letter is a capital, and a small sigma stays what it is wherever its
word ends, so a text that was lowercased is left as it is. -/
namespace CloudAudit.Text

theorem CaseBlock.covers_iff (block : CaseBlock) (code : Nat) :
    block.covers code = true ↔
      block.first ≤ code ∧ code ≤ block.last ∧ (code - block.first) % block.step = 0 := by
  simp [covers, and_assoc]

/-- No small letter of the first block is a capital of the second: one ends before the other begins,
or only every second code is a capital and the small letters stand between. -/
def CaseBlock.clearOf (block other : CaseBlock) : Bool :=
  (block.small block.last).blt other.first || other.last.blt block.image ||
    (other.step == 2 && (block.step == 2 || block.first == block.last) &&
      (block.image + other.first) % 2 == 1)

theorem CaseBlock.not_covers_small {block other : CaseBlock} (clear : block.clearOf other = true)
    {code : Nat} (covered : block.covers code = true) :
    ¬ other.covers (block.small code) = true := by
  obtain ⟨lower, upper, distance⟩ := (block.covers_iff code).1 covered
  rw [covers_iff]
  rintro ⟨above, below, apart⟩
  simp only [clearOf, Bool.or_eq_true, Bool.and_eq_true, Nat.blt_eq, beq_iff_eq] at clear
  simp only [small] at above below apart clear
  rcases clear with (before | behind) | ⟨⟨two, alternates⟩, odd⟩
  · omega
  · omega
  · have even : (code - block.first) % 2 = 0 := by
      rcases alternates with same | single
      · rwa [same] at distance
      · omega
    rw [two] at apart
    omega

def dottedCapital : CaseBlock := ⟨0x130, 0x130, 1, 0x69⟩

theorem capitals_clearOf :
    (capitals.all fun block => (dottedCapital :: capitals).all block.clearOf) = true := by
  decide +kernel

theorem small_isValidChar {block : CaseBlock} (listed : block ∈ capitals) {code : Nat}
    (covered : block.covers code = true) : (block.small code).isValidChar := by
  have images : ∀ block ∈ capitals, block.small block.last < 0xD800 ∨
      0xDFFF < block.image ∧ block.small block.last < 0x110000 := by
    decide +kernel
  have bounds := images block listed
  obtain ⟨lower, upper, _⟩ := (block.covers_iff code).1 covered
  simp only [CaseBlock.small] at bounds ⊢
  simp only [Nat.isValidChar]
  omega

theorem smallLetters_of_uncovered {c : Char}
    (uncovered : ∀ block ∈ dottedCapital :: capitals, ¬ block.covers c.toNat = true) :
    smallLetters c = [c] := by
  have plain : c ≠ 'İ' := by
    rintro rfl
    exact uncovered dottedCapital (.head _) (by decide)
  have nowhere : capitals.find? (·.covers c.toNat) = none :=
    List.find?_eq_none.2 fun block listed => uncovered block (.tail _ listed)
  rw [smallLetters, if_neg plain, nowhere]

theorem smallLetters_of_mem {c letter : Char} (small : letter ∈ smallLetters c) :
    smallLetters letter = [letter] := by
  rw [smallLetters] at small
  split at small
  case isTrue =>
    have both : (['i', '\u0307'].all fun letter => smallLetters letter = [letter]) = true := by
      decide +kernel
    exact of_decide_eq_true (List.all_eq_true.1 both letter small)
  case isFalse notDotted =>
    split at small
    case h_1 block found =>
      have listed := List.mem_of_find?_eq_some found
      have covered := List.find?_some found
      have code : letter.toNat = block.small c.toNat := by
        rw [List.mem_singleton.1 small, toNat_ofNat (small_isValidChar listed covered)]
      have clear := List.all_eq_true.1 (List.all_eq_true.1 capitals_clearOf block listed)
      apply smallLetters_of_uncovered
      intro other among
      rw [code]
      exact CaseBlock.not_covers_small (clear other among) covered
    case h_2 nowhere =>
      rw [List.mem_singleton.1 small, smallLetters, if_neg notDotted, nowhere]

theorem smallLetters_of_mem_lowercaseAfter {before text : List Char} {c : Char}
    (written : c ∈ lowercaseAfter before text) : smallLetters c = [c] := by
  induction text generalizing before with
  | nil => cases written
  | cons head rest ih =>
    rw [lowercaseAfter, List.mem_append] at written
    rcases written with here | later
    · split at here
      · rw [List.mem_singleton.1 here, sigma]
        split <;> decide +kernel
      · exact smallLetters_of_mem here
    · exact ih later

theorem lowercaseAfter_of_small {before text : List Char}
    (small : ∀ c ∈ text, smallLetters c = [c]) : lowercaseAfter before text = text := by
  induction text generalizing before with
  | nil => rfl
  | cons head rest ih =>
    obtain ⟨first, others⟩ := List.forall_mem_cons.1 small
    have notSigma : head ≠ 'Σ' := by
      rintro rfl
      exact absurd first (by decide +kernel)
    rw [lowercaseAfter, if_neg notSigma, first, ih others, List.singleton_append]

theorem lowercase_lowercase (s : String) : lowercase (lowercase s) = lowercase s := by
  have small : ∀ c ∈ (lowercase s).toList, smallLetters c = [c] := by
    rw [lowercase, String.toList_ofList]
    exact fun c written => smallLetters_of_mem_lowercaseAfter written
  rw [lowercase, lowercaseAfter_of_small small, String.ofList_toList]

end CloudAudit.Text
