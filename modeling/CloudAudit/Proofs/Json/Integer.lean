import CloudAudit.Proofs.Json.Numeral
import CloudAudit.Proofs.Outline.Document
import Mathlib.Tactic.IntervalCases
import Mathlib.Tactic.Ring

/-! Integers of 64 bits as JSON numbers: written in decimal they have no leading zero, and their
digits are all taken in and are far from the greatest double. -/
namespace CloudAudit.Json

open Decimal

theorem toNat_digitChar {d : Nat} (digit : d < 10) : d.digitChar.toNat - '0'.toNat = d := by
  interval_cases d <;> rfl

theorem head_toDigits {n : Nat} (positive : 0 < n) : (Nat.toDigits 10 n).head? ≠ some '0' := by
  induction n using Nat.strongRecOn with
  | ind n ih =>
    rw [Nat.toDigits_eq_if (by decide)]
    split
    case isTrue digit => interval_cases n <;> decide
    case isFalse large =>
      have higher := ih (n / 10) (by omega) (by omega)
      obtain ⟨first, rest, split⟩ := List.exists_cons_of_ne_nil (@Nat.toDigits_ne_nil (n / 10) 10)
      rw [split] at higher ⊢
      exact higher

theorem all_isDigit_toDigits (n : Nat) : ∀ c ∈ Nat.toDigits 10 n, c.isDigit = true :=
  fun _ inside => Nat.isDigit_of_mem_toDigits (by decide) (by decide) inside

theorem isWhole_toDigits (n : Nat) : IsWhole (Nat.toDigits 10 n) where
  digits := ⟨Nat.toDigits_ne_nil, all_isDigit_toDigits n⟩
  noLeadingZero := by
    rcases Nat.eq_zero_or_pos n with rfl | positive
    · exact .inl rfl
    · exact .inr (head_toDigits positive)

theorem takeDigits_cons {n : Nat} {c : Char}
    (room : 10 * n + (c.toNat - '0'.toNat) < Nat.pow 2 64) (rest : List Char) :
    takeDigits n (c :: rest) = takeDigits (10 * n + (c.toNat - '0'.toNat)) rest := if_pos room

theorem takeDigits_append {text : List Char} {start n : Nat} {c : Char}
    (taken : takeDigits start text = (n, []))
    (room : 10 * n + (c.toNat - '0'.toNat) < Nat.pow 2 64) :
    takeDigits start (text ++ [c]) = (10 * n + (c.toNat - '0'.toNat), []) := by
  induction text generalizing start with
  | nil =>
    cases taken
    exact takeDigits_cons room []
  | cons head rest ih =>
    rw [takeDigits] at taken
    rw [List.cons_append, takeDigits]
    split at taken
    case isTrue fits =>
      rw [if_pos fits]
      exact ih taken
    case isFalse => cases taken

theorem takeDigits_toDigits {n : Nat} (room : n < Nat.pow 2 64) :
    takeDigits 0 (Nat.toDigits 10 n) = (n, []) := by
  induction n using Nat.strongRecOn with
  | ind n ih =>
    rw [Nat.toDigits_eq_if (by decide)]
    split
    case isTrue digit =>
      have only := takeDigits_cons (n := 0) (c := n.digitChar)
      rw [toNat_digitChar digit, Nat.mul_zero, Nat.zero_add] at only
      exact only room []
    case isFalse large =>
      have higher := ih (n / 10) (by omega) (by omega)
      have value := toNat_digitChar (Nat.mod_lt n (by decide : 0 < 10))
      have whole : 10 * (n / 10) + (n % 10) = n := Nat.div_add_mod n 10
      have last := takeDigits_append (c := (n % 10).digitChar) higher
      rw [value, whole] at last
      exact last room

/-- Rounding to the leading bits at most doubles a number. -/
theorem leadingBits_le (n : Nat) : leadingBits n ≤ 2 * n := by
  unfold leadingBits
  split
  · omega
  case isFalse large =>
    have power : Nat.pow 2 (n.log2 - 52) ≤ n := by
      have positive : n ≠ 0 := by
        rintro rfl
        exact large (by decide)
      calc Nat.pow 2 (n.log2 - 52) ≤ 2 ^ n.log2 := Nat.pow_le_pow_right (by decide) (by omega)
        _ ≤ n := Nat.log2_self_le positive
    generalize Nat.pow 2 (n.log2 - 52) = unit at power
    have near : divHalfEven n unit ≤ n / unit + 1 := by
      unfold divHalfEven
      dsimp only
      split <;> omega
    calc divHalfEven n unit * unit ≤ (n / unit + 1) * unit := Nat.mul_le_mul_right unit near
      _ = n / unit * unit + unit := by ring
      _ ≤ n + n := Nat.add_le_add (Nat.div_mul_le_self n unit) power
      _ = 2 * n := by ring

theorem overflows_whole (negative : Bool) {n : Nat} (room : n < Nat.pow 2 64) :
    overflows ⟨negative, Nat.toDigits 10 n, [], 0⟩ = false := by
  have far : 2 * Nat.pow 2 64 < tooLarge := by decide +kernel
  have bits := leadingBits_le n
  have below : ¬ tooLarge ≤ leadingBits n * 1 := by omega
  -- no fraction and no exponent: the power of ten is zero
  have reckoned : overflows ⟨negative, Nat.toDigits 10 n, [], 0⟩ =
      if n = 0 || decide ((0 : Int) < 0) then false
      else if (308 : Int) < 0 then true else decide (tooLarge ≤ leadingBits n * 1) := by
    simp only [overflows, takeDigits_toDigits room]
    rfl
  rw [reckoned, decide_eq_false below]
  split <;> rfl

theorem toList_toString (n : Int) :
    (toString n).toList = minusSign (decide (n < 0)) ++ Nat.toDigits 10 n.natAbs := by
  rw [Int.toString_eq_repr, Int.repr_eq_if]
  split
  case isTrue nonneg =>
    have size : n.toNat = n.natAbs := by omega
    rw [Nat.toList_repr, size, decide_eq_false (by omega)]
    rfl
  case isFalse negative =>
    have size : (-n).toNat = n.natAbs := by omega
    rw [String.toList_append, Nat.toList_repr, size, decide_eq_true (by omega)]
    rfl

/-- An integer is a numeral without a fraction and an exponent. -/
theorem writesNumeral_toString (n : Int) :
    WritesNumeral ⟨decide (n < 0), Nat.toDigits 10 n.natAbs, [], 0⟩ (toString n).toList := by
  refine ⟨isWhole_toDigits n.natAbs, [], [], .none, .none, ?_⟩
  rw [toList_toString, List.append_nil, List.append_nil]

def IsInteger (text : String) : Prop :=
  ∃ n : Int, -2 ^ 63 ≤ n ∧ n < 2 ^ 63 ∧ text = toString n

theorem IsInteger.isNumber {text : String} (integer : IsInteger text) :
    isNumber text.toList = true ∧ ∀ c ∈ text.toList, isNumeralChar c = true := by
  obtain ⟨n, low, high, rfl⟩ := integer
  have writes := writesNumeral_toString n
  have room : n.natAbs < Nat.pow 2 64 := by
    change _ < 2 ^ 64
    omega
  exact ⟨isNumber_iff.2 ⟨_, writes, overflows_whole _ room⟩, writes.isNumeralChar⟩

def Integral (json : Json) : Prop :=
  ∀ text, .word (.atom (.number text)) ∈ json.tokens → IsInteger text

theorem Integral.item {items : List Json} (integral : (Json.array items).Integral) {item : Json}
    (inside : item ∈ items) : item.Integral :=
  fun text member => integral text (word_mem_array.2 ⟨item, inside, member⟩)

theorem Integral.value {members : List (String × Json)} (integral : (Json.object members).Integral)
    {member : String × Json} (inside : member ∈ members) : member.2.Integral :=
  fun text word => integral text (word_mem_object.2 ⟨member, inside, .inr word⟩)

end CloudAudit.Json
