import CloudAudit.Proofs.Text.SmallLetters
import CloudAudit.Text.Space
import Mathlib.Data.List.Basic

/-! The ends of a lowercased text. No small letter is white space, so lowercasing brings no white
space to either end of a text, and it makes no text empty. -/
namespace CloudAudit.Text

theorem Runs.hasCode_outside {runs : Runs} {code : Nat}
    (outside : ∀ run ∈ runs, code < run.1 ∨ run.2 < code) : runs.hasCode code = false := by
  induction runs with
  | nil => rfl
  | cons run rest ih =>
    obtain ⟨first, last⟩ := run
    obtain ⟨here, later⟩ := List.forall_mem_cons.1 outside
    rw [hasCode, ih later]
    rcases here with below | above
    · rw [if_pos below]
    · rw [if_neg (Nat.not_le_of_lt above), ite_self]

/-- The small letters of every block lie between two runs of white space. -/
theorem images_outside_whiteSpace :
    (capitals.all fun block => whiteSpace.all fun run =>
      (block.small block.last).blt run.1 || run.2.blt block.image) = true := by
  decide +kernel

theorem isSpace_of_mem_smallLetters {c letter : Char} (visible : isSpace c = false)
    (small : letter ∈ smallLetters c) : isSpace letter = false := by
  rw [smallLetters] at small
  split at small
  case isTrue =>
    have both : (['i', '\u0307'].all fun letter => !isSpace letter) = true := by decide
    simpa using List.all_eq_true.1 both letter small
  case isFalse =>
    split at small
    case h_1 block found =>
      have listed := List.mem_of_find?_eq_some found
      have covered := List.find?_some found
      obtain ⟨lower, upper, _⟩ := (block.covers_iff c.toNat).1 covered
      have code : letter.toNat = block.small c.toNat := by
        rw [List.mem_singleton.1 small, toNat_ofNat (small_isValidChar listed covered)]
      apply Runs.hasCode_outside
      intro run among
      have apart := List.all_eq_true.1
        (List.all_eq_true.1 images_outside_whiteSpace block listed) run among
      simp only [Bool.or_eq_true, Nat.blt_eq, CaseBlock.small] at apart
      rw [code, CaseBlock.small]
      omega
    case h_2 => rwa [List.mem_singleton.1 small]

theorem smallLetters_ne_nil (c : Char) : smallLetters c ≠ [] := by
  rw [smallLetters]
  split
  · exact List.cons_ne_nil _ _
  · split <;> exact List.cons_ne_nil _ _

def lettersOf (before : List Char) (c : Char) (rest : List Char) : List Char :=
  if c = 'Σ' then [sigma before rest] else smallLetters c

theorem lowercaseAfter_cons (before : List Char) (c : Char) (rest : List Char) :
    lowercaseAfter before (c :: rest) =
      lettersOf before c rest ++ lowercaseAfter (c :: before) rest :=
  rfl

theorem lettersOf_ne_nil (before : List Char) (c : Char) (rest : List Char) :
    lettersOf before c rest ≠ [] := by
  rw [lettersOf]
  split
  · exact List.cons_ne_nil _ _
  · exact smallLetters_ne_nil c

theorem isSpace_of_mem_lettersOf {before rest : List Char} {c letter : Char}
    (visible : isSpace c = false) (written : letter ∈ lettersOf before c rest) :
    isSpace letter = false := by
  rw [lettersOf] at written
  split at written
  case isTrue =>
    rw [List.mem_singleton.1 written, sigma]
    split <;> decide
  case isFalse => exact isSpace_of_mem_smallLetters visible written

theorem lowercaseAfter_ne_nil (before : List Char) {text : List Char} (nonempty : text ≠ []) :
    lowercaseAfter before text ≠ [] := by
  cases text with
  | nil => exact absurd rfl nonempty
  | cons c rest =>
    rw [lowercaseAfter_cons]
    exact List.append_ne_nil_of_left_ne_nil (lettersOf_ne_nil before c rest) _

theorem visible_last_lowercaseAfter {before text : List Char}
    (visible : ∀ c ∈ text.getLast?, isSpace c = false) :
    ∀ c ∈ (lowercaseAfter before text).getLast?, isSpace c = false := by
  induction text generalizing before with
  | nil => nofun
  | cons c rest ih =>
    intro letter last
    rw [lowercaseAfter_cons] at last
    cases rest with
    | nil =>
      rw [lowercaseAfter, List.append_nil] at last
      exact isSpace_of_mem_lettersOf (visible c rfl) (List.mem_of_getLast? last)
    | cons d more =>
      have later := lowercaseAfter_ne_nil (c :: before) (List.cons_ne_nil d more)
      rw [List.getLast?_append_of_ne_nil _ later] at last
      exact ih (fun e final => visible e (by simpa using final)) letter last

theorem trimmed_lowercaseAfter (before : List Char) {text : List Char} (trimmed : Trimmed text) :
    Trimmed (lowercaseAfter before text) where
  start letter first := by
    cases text with
    | nil => cases first
    | cons c rest =>
      rw [lowercaseAfter_cons, List.head?_append_of_ne_nil _ (lettersOf_ne_nil before c rest)]
        at first
      exact isSpace_of_mem_lettersOf (trimmed.start c rfl) (List.mem_of_head? first)
  finish := visible_last_lowercaseAfter trimmed.finish

theorem trimmed_lowercase {s : String} (trimmed : Trimmed s.toList) :
    Trimmed (lowercase s).toList := by
  rw [lowercase, String.toList_ofList]
  exact trimmed_lowercaseAfter [] trimmed

theorem lowercase_ne_empty {s : String} (nonempty : s ≠ "") : lowercase s ≠ "" := by
  intro empty
  have nothing : lowercaseAfter [] s.toList = [] := by
    simpa [lowercase] using congrArg String.toList empty
  exact lowercaseAfter_ne_nil [] (mt String.toList_eq_nil_iff.1 nonempty) nothing

end CloudAudit.Text
