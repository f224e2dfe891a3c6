/-! Hexadecimal digits in either case, and numbers written with them. -/
namespace CloudAudit.Text

def hexValue? (c : Char) : Option Nat :=
  if '0' ≤ c ∧ c ≤ '9' then some (c.toNat - '0'.toNat)
  else if 'a' ≤ c ∧ c ≤ 'f' then some (c.toNat - 'a'.toNat + 10)
  else if 'A' ≤ c ∧ c ≤ 'F' then some (c.toNat - 'A'.toNat + 10)
  else none

def isHexDigit (c : Char) : Bool := (hexValue? c).isSome

def hexNumber? (digits : List Char) : Option Nat :=
  if digits.isEmpty then none
  else digits.foldlM (fun n c => (hexValue? c).map (16 * n + ·)) 0

def hexadecimal (n : Nat) : List Char := Nat.toDigits 16 n

def isLeadSurrogate (code : Nat) : Bool := 0xD800 ≤ code && code ≤ 0xDBFF

def isTrailSurrogate (code : Nat) : Bool := 0xDC00 ≤ code && code ≤ 0xDFFF

end CloudAudit.Text
