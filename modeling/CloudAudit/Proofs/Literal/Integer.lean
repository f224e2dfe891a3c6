import CloudAudit.Proofs.Json.Integer
import CloudAudit.Proofs.Literal.Numeral

/-! Integers of 64 bits in literals: they are written as in JSON, and such a number means the
integer. -/
namespace CloudAudit.Literal

open Decimal

theorem natural_append (digits : List Char) (c : Char) :
    natural (digits ++ [c]) = 10 * natural digits + (c.toNat - '0'.toNat) := by
  rw [natural, List.foldl_append]
  rfl

theorem natural_toDigits (n : Nat) : natural (Nat.toDigits 10 n) = n := by
  induction n using Nat.strongRecOn with
  | ind n ih =>
    rw [Nat.toDigits_eq_if (by decide)]
    split
    case isTrue digit =>
      have last := natural_append [] n.digitChar
      rw [Json.toNat_digitChar digit] at last
      exact last.trans (by simp [natural])
    case isFalse large =>
      rw [natural_append, ih (n / 10) (by omega),
        Json.toNat_digitChar (Nat.mod_lt n (by decide))]
      exact Nat.div_add_mod n 10

theorem signed_toDigits (n : Int) :
    signed ⟨decide (n < 0), Nat.toDigits 10 n.natAbs, [], 0⟩ = n := by
  rw [signed, natural_toDigits]
  by_cases negative : n < 0
  · rw [if_pos (decide_eq_true negative)]
    omega
  · rw [decide_eq_false negative, if_neg Bool.false_ne_true]
    omega

theorem ofText_toString {n : Int} (low : -2 ^ 63 ≤ n) (high : n < 2 ^ 63) :
    Number.ofText (toString n).toList = .ok (.integer n) := by
  rw [ofText_of_whole (Json.writesNumeral_toString n) (Json.toList_toString n), signed_toDigits,
    if_pos ⟨low, high⟩]

/-- Integers stand in literals as they do in JSON. -/
theorem isNumber_toString (n : Int) : IsNumber (toString n).toList :=
  isNumber_of_writes (Json.writesNumeral_toString n)

end CloudAudit.Literal
