import CloudAudit.Decimal.Numeral

/-! JSON numbers. The size of a number is reckoned in doubles, from its leading digits, as many as
stay below `2 ^ 64`, and a power of ten; what comes out too large is no number. Both factors are
rounded, so next to the greatest double this is not the size that the number itself rounds to. -/
namespace CloudAudit.Json

open Decimal

def readWhole? (text : List Char) : Option (List Char × List Char) :=
  (readDigits? text).filter fun digits => digits.1.length = 1 || digits.1.head? ≠ some '0'

def readFraction? : List Char → Option (List Char × List Char)
  | '.' :: rest => readDigits? rest
  | text => some ([], text)

def readExponent? : List Char → Option (Int × List Char)
  | [] => some (0, [])
  | c :: rest => if marksExponent c then readPower? rest else some (0, c :: rest)

def readMinus : List Char → Bool × List Char
  | '-' :: rest => (true, rest)
  | text => (false, text)

def readNumeral? (text : List Char) : Option (Numeral × List Char) :=
  (readWhole? (readMinus text).2).bind fun whole =>
    (readFraction? whole.2).bind fun fraction =>
      (readExponent? fraction.2).map fun exponent =>
        (⟨(readMinus text).1, whole.1, fraction.1, exponent.1⟩, exponent.2)

/-- Digits are taken in while the number stays below `2 ^ 64`; the others are left. -/
def takeDigits (n : Nat) : List Char → Nat × List Char
  | [] => (n, [])
  | c :: rest =>
    let next := 10 * n + (c.toNat - '0'.toNat)
    if next < Nat.pow 2 64 then takeDigits next rest else (n, c :: rest)

def leadingBits (n : Nat) : Nat :=
  if n < Nat.pow 2 53 then n
  else
    let unit := Nat.pow 2 (n.log2 - 52)
    divHalfEven n unit * unit

/-- From this size on a number rounds to more than the greatest double. -/
def tooLarge : Nat := Nat.pow 2 1024 - Nat.pow 2 970

/-- The product of two doubles, the digits that are taken in and a power of ten, is not finite. -/
def overflows (numeral : Numeral) : Bool :=
  let whole := takeDigits 0 numeral.whole
  let both := takeDigits whole.1 numeral.fraction
  let used := numeral.fraction.length - both.2.length
  let power := numeral.exponent + whole.2.length - used
  if both.1 = 0 || power < 0 then false
  else if 308 < power then true
  else tooLarge ≤ leadingBits both.1 * leadingBits (Nat.pow 10 power.toNat)

def isNumeralChar (c : Char) : Bool := c.isDigit || c = '-' || c = '+' || c = '.' || marksExponent c

def isNumber (text : List Char) : Bool :=
  match readNumeral? text with
  | some (numeral, []) => !overflows numeral
  | _ => false

/-- The longest text of characters that numbers have, if it is a number; nothing that a number may
be followed by is among them. -/
def readNumber? (text : List Char) : Option (String × List Char) :=
  let number := text.takeWhile isNumeralChar
  if isNumber number then some (String.ofList number, text.dropWhile isNumeralChar) else none

theorem isNumber_ne_nil {text : List Char} (number : isNumber text = true) : text ≠ [] := by
  rintro rfl
  cases number

theorem readNumber?_length {text : List Char} {number : String × List Char}
    (found : readNumber? text = some number) : number.2.length < text.length := by
  unfold readNumber? at found
  simp only at found
  split at found
  · rename_i valid
    cases found
    have total := congrArg List.length
      (List.takeWhile_append_dropWhile (p := isNumeralChar) (l := text))
    have := List.length_pos_iff.2 (isNumber_ne_nil valid)
    rw [List.length_append] at total
    show (text.dropWhile isNumeralChar).length < _
    omega
  · cases found

end CloudAudit.Json
