import CloudAudit.Decimal.Shortest
import CloudAudit.Literal.Reader

/-! What the numbers and strings of a literal mean, and how they may fail to mean anything. A
numeral without point and exponent is an integer; hexadecimal integers have 32 bits and no sign, the
others 64 bits with one. Other numerals are doubles. -/
namespace CloudAudit.Literal

open Text Decimal

inductive Fault where
  | hexadecimal
  | integer
  | number
  | tooLarge
  | unexpectedTrail
  | missingTrail
  | expectedTrail
deriving DecidableEq, Repr

def Fault.message : Fault → String
  | hexadecimal => "error parsing hex"
  | integer => "error parsing integer"
  | number => "error parsing number"
  | tooLarge => "error parsing number: too large"
  | unexpectedTrail => "unexpected unicode trail surrogate"
  | missingTrail => "missing unicode trail surrogate"
  | expectedTrail => "expecting unicode trail surrogate"

inductive Number where
  | integer (value : Int)
  | double (negative : Bool) (magnitude : Double)
  | infinity (negative : Bool)
  | notANumber
deriving DecidableEq, Repr

def signText (negative : Bool) : String := if negative then "-" else ""

def Number.text : Number → String
  | integer value => toString value
  | double negative magnitude =>
    signText negative ++ String.ofList magnitude.shortest.positional
  | infinity negative => signText negative ++ "inf"
  | notANumber => "NaN"

def isHexadecimal (text : List Char) : Bool :=
  match text with
  | '0' :: x :: _ :: _ => x = 'x' || x = 'X'
  | _ => false

def namesNumber (text : List Char) : Bool :=
  ["Infinity", "-Infinity", "NaN", "-NaN"].any (·.toList = text)

def isInteger (text : List Char) : Bool :=
  !text.contains '.' && (isHexadecimal text || !text.any marksExponent) && !namesNumber text

def integerOfHex (digits : List Char) : Except Fault Int :=
  match hexNumber? digits with
  | some n => if n < Nat.pow 2 32 then .ok n else .error .hexadecimal
  | none => .error .hexadecimal

def integerBound : Int := (Nat.pow 2 63 : Nat)

def integerOfText (text : List Char) : Except Fault Int :=
  let (negative, digits) := readSign text
  let size : Int := natural digits
  let value := if negative then -size else size
  if !digits.isEmpty && digits.all Char.isDigit && -integerBound ≤ value && value < integerBound then
    .ok value
  else .error .integer

def fractionAt : List Char → List Char × List Char
  | '.' :: rest => splitDigits rest
  | text => ([], text)

def powerAt? : List Char → Option Int
  | [] => some 0
  | c :: rest =>
    if marksExponent c then
      (readPower? rest).bind fun power => if power.2.isEmpty then some power.1 else none
    else none

def doubleOfText (text : List Char) : Except Fault Number :=
  let sign := readSign text
  let whole := splitDigits sign.2
  let fraction := fractionAt whole.2
  match powerAt? fraction.2 with
  | none => .error .number
  | some power =>
    if whole.1.isEmpty && fraction.1.isEmpty then .error .number
    else
      match Double.ofDecimal? (natural (whole.1 ++ fraction.1)) (power - fraction.1.length) with
      | some magnitude => .ok (.double sign.1 magnitude)
      | none => .error .tooLarge

def Number.ofText (text : List Char) : Except Fault Number :=
  if isInteger text then
    .integer <$> (if isHexadecimal text then integerOfHex (text.drop 2) else integerOfText text)
  else if text = "Infinity".toList then .ok (.infinity false)
  else if text = "-Infinity".toList then .ok (.infinity true)
  else if text = "NaN".toList || text = "-NaN".toList then .ok .notANumber
  else doubleOfText text

/-- The character of a pair: the bits of both halves side by side, the distance of the pairs from
the single codes added to the second half. -/
def pairedChar (lead trail : Nat) : Char :=
  Char.ofNat (((lead - 0xD800) <<< 10) ||| ((trail - 0xDC00) + 0x10000))

/-- The characters of the pieces, in front of `done` last one first. The piece after the first half
of a pair is read as hexadecimal digits, whatever it is. -/
def joinPieces (done : List Char) : List Piece → Except Fault (List Char)
  | [] => .ok done.reverse
  | .char c _ :: rest => joinPieces (c :: done) rest
  | .code code _ :: rest =>
    if isTrailSurrogate code then .error .unexpectedTrail
    else if isLeadSurrogate code then
      match rest with
      | [] => .error .missingTrail
      | next :: rest =>
        match hexNumber? next.spelling with
        | none => .error .hexadecimal
        | some trail =>
          if isTrailSurrogate trail then joinPieces (pairedChar code trail :: done) rest
          else .error .expectedTrail
    else joinPieces (Char.ofNat code :: done) rest

def stringOfPieces (pieces : List Piece) : Except Fault String :=
  String.ofList <$> joinPieces [] pieces

end CloudAudit.Literal
