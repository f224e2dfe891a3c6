/-! Doubles as exact numbers: 53 bits of mantissa, exponents from -1074, quotients rounded to the
nearest double with ties to the even mantissa. -/
namespace CloudAudit.Decimal

/-- The double `mantissa * 2 ^ exponent`. -/
structure Double where
  mantissa : Nat
  exponent : Int
deriving DecidableEq, Repr

def divHalfEven (n d : Nat) : Nat :=
  let q := n / d
  let twice := 2 * (n % d)
  if d < twice || (twice = d && q % 2 = 1) then q + 1 else q

def lowestExponent : Int := -1074

def highestExponent : Int := 971

def scaled (n d : Nat) (power : Int) : Nat × Nat :=
  match power with
  | .ofNat k => (n * Nat.pow 2 k, d)
  | .negSucc k => (n, d * Nat.pow 2 (k + 1))

def floorLog2 (n d : Nat) : Int :=
  let guess : Int := (n.log2 : Int) - d.log2
  let (n, d) := scaled n d (-guess)
  if n < d then guess - 1 else guess

def Double.nearest (n d : Nat) : Double :=
  if n = 0 then ⟨0, lowestExponent⟩
  else
    let exponent := max lowestExponent (floorLog2 n d - 52)
    let (n, d) := scaled n d (-exponent)
    let mantissa := divHalfEven n d
    if mantissa = Nat.pow 2 53 then ⟨Nat.pow 2 52, exponent + 1⟩ else ⟨mantissa, exponent⟩

def Double.isFinite (x : Double) : Bool := x.exponent ≤ highestExponent

/-- The double nearest to `digits * 10 ^ power`, if it is finite. Powers far out of range need no
exact quotient. -/
def Double.ofDecimal? (digits : Nat) (power : Int) : Option Double :=
  if digits = 0 || power + digits.log2 < -400 then some ⟨0, lowestExponent⟩
  else if 400 < power then none
  else
    let x := match power with
      | .ofNat k => Double.nearest (digits * Nat.pow 10 k) 1
      | .negSucc k => Double.nearest digits (Nat.pow 10 (k + 1))
    if x.isFinite then some x else none

end CloudAudit.Decimal
