import CloudAudit.Decimal.Double

/-! Decimal numerals: a sign, a whole part, a fraction, an exponent. -/
namespace CloudAudit.Decimal

structure Numeral where
  negative : Bool
  whole : List Char
  fraction : List Char
  exponent : Int
deriving DecidableEq, Repr

def natural (digits : List Char) : Nat :=
  digits.foldl (fun n c => 10 * n + (c.toNat - '0'.toNat)) 0

/-- As `natural`, up to a bound past which the exact number is of no use. -/
def naturalUpTo (bound : Nat) (digits : List Char) : Nat :=
  digits.foldl (fun n c => min bound (10 * n + (c.toNat - '0'.toNat))) 0

def exponentBound : Nat := Nat.pow 10 9

def splitDigits (text : List Char) : List Char × List Char :=
  (text.takeWhile Char.isDigit, text.dropWhile Char.isDigit)

def readDigits? (text : List Char) : Option (List Char × List Char) :=
  if (splitDigits text).1.isEmpty then none else some (splitDigits text)

def readSign : List Char → Bool × List Char
  | '-' :: rest => (true, rest)
  | '+' :: rest => (false, rest)
  | text => (false, text)

def marksExponent (c : Char) : Bool := c = 'e' || c = 'E'

def readPower? (text : List Char) : Option (Int × List Char) :=
  (readDigits? (readSign text).2).map fun digits =>
    let size : Int := naturalUpTo exponentBound digits.1
    (if (readSign text).1 then -size else size, digits.2)

end CloudAudit.Decimal
