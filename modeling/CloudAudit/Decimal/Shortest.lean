import CloudAudit.Decimal.Double

/-! The shortest decimal that reads back as a given double: of the grids of 1, 2, … 17 digits the
first with a point that rounds to the double, and of two such points the nearer, or the greater if
both are as near. -/
namespace CloudAudit.Decimal

structure Scientific where
  digits : Nat
  power : Int
deriving DecidableEq, Repr

/-- The numbers that round to a double, as numerators over one denominator; the ends round to it too
when the mantissa is even. -/
structure Neighbourhood where
  low : Nat
  value : Nat
  high : Nat
  denominator : Nat
  closed : Bool

def Double.neighbourhood (x : Double) : Neighbourhood :=
  let below := if x.mantissa = Nat.pow 2 52 && lowestExponent < x.exponent then 1 else 2
  let (unit, denominator) := scaled 1 1 (x.exponent - 2)
  { low := (4 * x.mantissa - below) * unit
    value := 4 * x.mantissa * unit
    high := (4 * x.mantissa + 2) * unit
    denominator
    closed := x.mantissa % 2 = 0 }

/-- The power of ten at or below a positive number over `10 ^ -400`. -/
def floorLog10 (n d : Nat) : Int :=
  ((Nat.toDigits 10 (n * Nat.pow 10 400 / d)).length : Int) - 401

def Neighbourhood.point? (near : Neighbourhood) (power : Int) : Option Nat :=
  let step := near.denominator * Nat.pow 10 power.toNat
  let scale := Nat.pow 10 (-power).toNat
  let inside (d : Nat) : Bool :=
    if near.closed then near.low * scale ≤ d * step && d * step ≤ near.high * scale
    else near.low * scale < d * step && d * step < near.high * scale
  let value := near.value * scale
  let d := value / step
  match inside d, inside (d + 1) with
  | true, true => if (d + 1) * step - value ≤ value - d * step then some (d + 1) else some d
  | true, false => some d
  | false, true => some (d + 1)
  | false, false => none

def Scientific.trimmed (x : Scientific) : Scientific :=
  if x.digits = 0 then x
  else if x.digits % 10 = 0 then trimmed ⟨x.digits / 10, x.power + 1⟩
  else x
termination_by x.digits
decreasing_by exact Nat.div_lt_self (Nat.pos_of_ne_zero ‹_›) (by decide)

def Double.shortest (x : Double) : Scientific :=
  if x.mantissa = 0 then ⟨0, 0⟩
  else
    let near := x.neighbourhood
    let top := floorLog10 near.value near.denominator
    let found := (List.range 17).findSome? fun (more : Nat) =>
      let power := top - more
      (near.point? power).map fun digits => Scientific.trimmed ⟨digits, power⟩
    found.getD ⟨0, 0⟩

/-- Written without an exponent and with at least one place after the point. -/
def Scientific.positional (x : Scientific) : List Char :=
  let digits := Nat.toDigits 10 x.digits
  match x.power with
  | .ofNat zeros => digits ++ List.replicate zeros '0' ++ ['.', '0']
  | .negSucc n =>
    let places := n + 1
    let padded := List.replicate (places + 1 - digits.length) '0' ++ digits
    padded.take (padded.length - places) ++ '.' :: padded.drop (padded.length - places)

end CloudAudit.Decimal
