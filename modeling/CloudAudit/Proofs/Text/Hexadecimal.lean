import CloudAudit.Text.Hexadecimal
import Mathlib.Data.List.Induction
import Mathlib.Tactic.IntervalCases

/-! Hexadecimal digits are read as the number that they write, in either case and behind any
zeros. -/
namespace CloudAudit.Text

def WritesHexadecimal (n : Nat) (digits : List Char) : Prop :=
  ∃ zeros, digits.map Char.toLower = List.replicate zeros '0' ++ hexadecimal n

def addDigit (n : Nat) (c : Char) : Option Nat := (hexValue? c).map (16 * n + ·)

theorem hexValue?_digitChar {n : Nat} (digit : n < 16) : hexValue? n.digitChar = some n := by
  interval_cases n <;> rfl

theorem hexValue?_toLower (c : Char) : hexValue? c.toLower = hexValue? c := by
  by_cases capital : 65 ≤ c.toNat ∧ c.toNat ≤ 90
  · obtain ⟨low, high⟩ := capital
    rw [← Char.ofNat_toNat c]
    generalize c.toNat = code at low high
    interval_cases code <;> rfl
  · have same : c.toLower = c := dif_neg capital
    rw [same]

theorem foldlM_hexadecimal (n : Nat) : (hexadecimal n).foldlM addDigit 0 = some n := by
  induction n using Nat.strongRecOn with
  | ind n ih =>
    rw [hexadecimal, Nat.toDigits_eq_if (by decide)]
    split
    case isTrue digit => simp [addDigit, hexValue?_digitChar digit]
    case isFalse large =>
      have smaller := ih (n / 16) (by omega)
      rw [hexadecimal] at smaller
      rw [List.foldlM_append, smaller]
      have last := hexValue?_digitChar (Nat.mod_lt n (by decide : 0 < 16))
      simp [addDigit, last, Nat.div_add_mod]

theorem foldlM_zeros (zeros : Nat) (rest : List Char) :
    (List.replicate zeros '0' ++ rest).foldlM addDigit 0 = rest.foldlM addDigit 0 := by
  induction zeros with
  | zero => rfl
  | succ zeros ih => exact ih

theorem hexNumber?_of_writes {n : Nat} {digits : List Char} (writes : WritesHexadecimal n digits) :
    hexNumber? digits = some n := by
  obtain ⟨zeros, same⟩ := writes
  have nonempty : digits.isEmpty = false := by
    cases digits with
    | nil => simp [hexadecimal, Nat.toDigits_ne_nil] at same
    | cons => rfl
  have lower : digits.foldlM addDigit 0 = (digits.map Char.toLower).foldlM addDigit 0 := by
    have same : (fun n c => addDigit n (Char.toLower c)) = addDigit := by
      funext n c
      simp only [addDigit, hexValue?_toLower]
    rw [List.foldlM_map, same]
  rw [hexNumber?, nonempty, if_neg Bool.false_ne_true]
  exact (lower.trans (same ▸ foldlM_zeros zeros _)).trans (foldlM_hexadecimal n)

theorem toLower_of_hexValue? {c : Char} {n : Nat} (value : hexValue? c = some n) :
    n < 16 ∧ c.toLower = n.digitChar := by
  have inRange : 48 ≤ c.toNat ∧ c.toNat ≤ 57 ∨ 97 ≤ c.toNat ∧ c.toNat ≤ 102 ∨
      65 ≤ c.toNat ∧ c.toNat ≤ 70 := by
    rw [hexValue?] at value
    split at value
    case isTrue digit => exact .inl digit
    case isFalse =>
      split at value
      case isTrue small => exact .inr (.inl small)
      case isFalse =>
        split at value
        case isTrue capital => exact .inr (.inr capital)
        case isFalse => cases value
  rw [← Char.ofNat_toNat c] at value ⊢
  generalize c.toNat = code at inRange value
  rcases inRange with ⟨low, high⟩ | ⟨low, high⟩ | ⟨low, high⟩ <;>
    interval_cases code <;> cases value <;> exact ⟨by decide, by decide⟩

theorem isHexDigit_of_foldlM {digits : List Char} {start n : Nat}
    (value : digits.foldlM addDigit start = some n) : ∀ c ∈ digits, isHexDigit c = true := by
  induction digits generalizing start with
  | nil => exact List.forall_mem_nil _
  | cons c rest ih =>
    obtain ⟨next, first, value⟩ := Option.bind_eq_some_iff.1 value
    obtain ⟨digit, read, _⟩ := Option.map_eq_some_iff.1 first
    exact List.forall_mem_cons.2 ⟨by rw [isHexDigit, read]; rfl, ih value⟩

theorem isHexDigit_of_writes {n : Nat} {digits : List Char} (writes : WritesHexadecimal n digits) :
    ∀ c ∈ digits, isHexDigit c = true := by
  have value := hexNumber?_of_writes writes
  rw [hexNumber?] at value
  split at value
  case isTrue => cases value
  case isFalse => exact isHexDigit_of_foldlM value

theorem hexadecimal_add {n d : Nat} (positive : 0 < n) (digit : d < 16) :
    hexadecimal (16 * n + d) = hexadecimal n ++ [d.digitChar] := by
  have higher : (16 * n + d) / 16 = n := by omega
  have lowest : (16 * n + d) % 16 = d := by omega
  rw [hexadecimal, Nat.toDigits_eq_if (by decide), if_neg (by omega), higher, lowest]
  rfl

theorem writes_of_foldlM {digits : List Char} (nonempty : digits ≠ []) {n : Nat}
    (value : digits.foldlM addDigit 0 = some n) : WritesHexadecimal n digits := by
  induction digits using List.reverseRecOn generalizing n with
  | nil => exact absurd rfl nonempty
  | append_singleton front c ih =>
    rw [List.foldlM_append] at value
    obtain ⟨higher, valueFront, value⟩ := Option.bind_eq_some_iff.1 value
    obtain ⟨_, last, same⟩ := Option.bind_eq_some_iff.1 value
    obtain ⟨d, valueLast, sum⟩ := Option.map_eq_some_iff.1 last
    cases same
    obtain ⟨digit, lower⟩ := toLower_of_hexValue? valueLast
    have only : hexadecimal d = [d.digitChar] := Nat.toDigits_of_lt_base digit
    rw [WritesHexadecimal, List.map_append, List.map_singleton, lower, ← sum]
    by_cases alone : front = []
    · cases alone
      cases valueFront
      exact ⟨0, by simp [only]⟩
    obtain ⟨zeros, split⟩ := ih alone valueFront
    rcases Nat.eq_zero_or_pos higher with rfl | positive
    · refine ⟨zeros + 1, ?_⟩
      rw [split, Nat.mul_zero, Nat.zero_add, only, List.replicate_succ']
      rfl
    · refine ⟨zeros, ?_⟩
      rw [split, hexadecimal_add positive digit, List.append_assoc]

theorem hexNumber?_eq_some_iff {digits : List Char} {n : Nat} :
    hexNumber? digits = some n ↔ WritesHexadecimal n digits := by
  refine ⟨fun value => ?_, hexNumber?_of_writes⟩
  rw [hexNumber?] at value
  split at value
  case isTrue => cases value
  case isFalse nonempty => exact writes_of_foldlM (mt List.isEmpty_iff.2 nonempty) value

theorem WritesHexadecimal.lt {n : Nat} {digits : List Char} (writes : WritesHexadecimal n digits)
    (nonempty : 0 < digits.length) : n < 16 ^ digits.length := by
  obtain ⟨zeros, same⟩ := writes
  have total := congrArg List.length same
  rw [List.length_map, List.length_append, List.length_replicate] at total
  rw [← Nat.length_toDigits_le_iff (by decide) nonempty]
  change (hexadecimal n).length ≤ digits.length
  omega

theorem toNat_ofNat {code : Nat} (valid : code.isValidChar) : (Char.ofNat code).toNat = code := by
  rw [Char.ofNat, dif_pos valid]
  rfl

theorem not_surrogate (c : Char) :
    isLeadSurrogate c.toNat = false ∧ isTrailSurrogate c.toNat = false := by
  have valid : c.toNat < 0xD800 ∨ 0xDFFF < c.toNat ∧ c.toNat < 0x110000 := c.valid
  constructor <;> simp [isLeadSurrogate, isTrailSurrogate] <;> omega

end CloudAudit.Text
