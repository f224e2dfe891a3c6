import CloudAudit.Proofs.Json.Numeral
import CloudAudit.Proofs.Literal.Script

/-! JSON numerals in literals. Every one of them is a number of a literal, and it has a value if it
is an integer of 64 bits or, with a point or an exponent in it, if it rounds to a finite double. -/
namespace CloudAudit.Literal

open Decimal
open Json (IsDigits IsWhole WritesFraction WritesExponent WritesNumeral minusSign)

theorem readSign_minusSign (negative : Bool) {whole rest : List Char} (isWhole : IsWhole whole) :
    readSign (minusSign negative ++ (whole ++ rest)) = (negative, whole ++ rest) := by
  cases negative with
  | true => rfl
  | false =>
    obtain ⟨c, more, split⟩ := List.exists_cons_of_ne_nil isWhole.digits.1
    have digit := isWhole.digits.2 c (by simp [split])
    rw [minusSign, if_neg Bool.false_ne_true, List.nil_append, split, readSign.eq_def]
    split
    case h_1 same | h_2 same =>
      cases same
      cases digit
    case h_3 => rfl

theorem dropDigits_append {digits rest : List Char} (all : ∀ c ∈ digits, c.isDigit = true)
    (stops : ∀ c ∈ rest.head?, c.isDigit = false) :
    (digits ++ rest).dropWhile Char.isDigit = rest :=
  congrArg Prod.snd (Json.splitDigits_append all stops)

theorem readPower?_of_writes {mark : Char} {exponent : Int} {written : List Char}
    (writes : WritesExponent exponent (mark :: written)) :
    marksExponent mark = true ∧ readPower? written = some (exponent, []) := by
  have read := Json.readExponent?_of_writes writes
  have marks : marksExponent mark = true := by cases writes <;> assumption
  rw [Json.readExponent?, if_pos marks] at read
  exact ⟨marks, read⟩

theorem afterExponent_of_writes {exponent : Int} {written : List Char}
    (writes : WritesExponent exponent written) : afterExponent written = [] := by
  cases written with
  | nil => rfl
  | cons mark rest =>
    obtain ⟨marks, read⟩ := readPower?_of_writes writes
    rw [afterExponent, if_pos marks, read]
    rfl

theorem powerAt?_of_writes {exponent : Int} {written : List Char}
    (writes : WritesExponent exponent written) : powerAt? written = some exponent := by
  cases written with
  | nil => cases writes; rfl
  | cons mark rest =>
    obtain ⟨marks, read⟩ := readPower?_of_writes writes
    rw [powerAt?, if_pos marks, read]
    rfl

theorem afterPoint_of_writes {digits fraction : List Char} (writes : WritesFraction digits fraction)
    {exponent : Int} {written : List Char} (writesExponent : WritesExponent exponent written) :
    afterPoint (fraction ++ written) = [] := by
  have ends := afterExponent_of_writes writesExponent
  cases writes with
  | none =>
    rw [List.nil_append, afterPoint.eq_def]
    split
    case h_1 => exact absurd rfl (writesExponent.head '.' rfl).2
    case h_2 => exact ends
  | point isDigits =>
    have stops : ∀ c ∈ written.head?, c.isDigit = false :=
      fun c first => (writesExponent.head c first).1
    rw [List.cons_append, afterPoint, dropDigits_append isDigits.2 stops]
    exact ends

theorem fractionAt_of_writes {digits fraction : List Char} (writes : WritesFraction digits fraction)
    {exponent : Int} {written : List Char} (writesExponent : WritesExponent exponent written) :
    fractionAt (fraction ++ written) = (digits, written) := by
  cases writes with
  | none =>
    rw [List.nil_append, fractionAt.eq_def]
    split
    case h_1 => exact absurd rfl (writesExponent.head '.' rfl).2
    case h_2 => rfl
  | point isDigits =>
    exact Json.splitDigits_append isDigits.2 fun c first => (writesExponent.head c first).1

section

variable {numeral : Numeral} {text : List Char}

/-- The letters of names and of hexadecimal marks are not in numerals. -/
theorem not_mem_of_writes (writes : WritesNumeral numeral text) {c : Char}
    (other : Json.isNumeralChar c = false) : c ∉ text := by
  intro inside
  rw [writes.isNumeralChar c inside] at other
  cases other

theorem namesNumber_of_writes (writes : WritesNumeral numeral text) :
    namesNumber text = false := by
  rw [namesNumber, List.any_eq_false]
  intro name listed same
  have letters : ∀ name ∈ ["Infinity", "-Infinity", "NaN", "-NaN"],
      name.toList.any (!Json.isNumeralChar ·) = true := by decide
  obtain ⟨c, inside, other⟩ := List.any_eq_true.1 (letters name listed)
  rw [Bool.not_eq_true'] at other
  exact not_mem_of_writes writes other (of_decide_eq_true same ▸ inside)

theorem isHexadecimal_of_writes (writes : WritesNumeral numeral text) {front rest : List Char}
    (split : text = front ++ rest) : isHexadecimal rest = false := by
  subst split
  unfold isHexadecimal
  split
  case h_1 x _ _ =>
    have noMark (mark : Char) (other : Json.isNumeralChar mark = false) : x ≠ mark := by
      rintro rfl
      exact not_mem_of_writes writes other (List.mem_append_right _ (.tail _ (.head _)))
    rw [decide_eq_false (noMark 'x' (by decide)), decide_eq_false (noMark 'X' (by decide))]
    rfl
  case h_2 => rfl

theorem afterHexadecimal?_of_not {text : List Char} (other : isHexadecimal text = false) :
    afterHexadecimal? text = none := by
  unfold afterHexadecimal?
  split
  case h_1 x _ _ =>
    rw [isHexadecimal] at other
    rw [other, Bool.false_and, if_neg Bool.false_ne_true]
  case h_2 => rfl

theorem afterDecimal?_of_whole {whole rest : List Char} (isWhole : IsWhole whole)
    (stops : ∀ c ∈ rest.head?, c.isDigit = false) (ends : afterPoint rest = []) :
    afterDecimal? (whole ++ rest) = some [] := by
  obtain ⟨c, more, rfl⟩ := List.exists_cons_of_ne_nil isWhole.digits.1
  have all := isWhole.digits.2
  have digit := all c (.head _)
  have noPoint : c ≠ '.' := by
    rintro rfl
    cases digit
  rw [List.cons_append, afterDecimal?.eq_def]
  split
  case h_1 same =>
    -- a zero in front is alone
    obtain ⟨rfl, rfl⟩ := List.cons.inj same
    have alone : more = [] := by
      rcases isWhole.noLeadingZero with single | other
      · exact List.eq_nil_of_length_eq_zero (Nat.succ_inj.1 single)
      · exact absurd rfl other
    rw [alone, List.nil_append, ends]
  case h_2 same => exact absurd (List.cons.inj same).1 noPoint
  case h_3 same =>
    obtain ⟨rfl, rfl⟩ := List.cons.inj same
    rw [if_pos digit, dropDigits_append (fun d inside => all d (.tail _ inside)) stops, ends]
  case h_4 same => cases same

theorem mem_digits {c : Char} (digit : c.isDigit = true) : c ∈ "0123456789".toList := by
  have codes : ∀ code ∈ List.range' 48 10, Char.ofNat code ∈ "0123456789".toList := by decide
  have bounds : 48 ≤ c.toNat ∧ c.toNat ≤ 57 := by
    simpa [Char.isDigit, UInt32.le_iff_toNat_le] using digit
  rw [← Char.ofNat_toNat c]
  exact codes c.toNat (List.mem_range'_1.2 (by omega))

theorem isNumeralChar_of_json {c : Char} (numeral : Json.isNumeralChar c = true) :
    isNumeralChar c = true := by
  simp only [Json.isNumeralChar, marksExponent, Bool.or_eq_true, decide_eq_true_eq] at numeral
  rcases numeral with (((digit | rfl) | rfl) | rfl) | (rfl | rfl)
  · simp [isNumeralChar, Char.isAlphanum, digit]
  all_goals decide

theorem isNumber_of_writes (writes : WritesNumeral numeral text) : IsNumber text := by
  have noHexadecimal := @isHexadecimal_of_writes numeral text writes
  have all := writes.isNumeralChar
  obtain ⟨isWhole, fraction, exponent, writesFraction, writesExponent, rfl⟩ := writes
  refine ⟨?_, ?_, fun c inside => isNumeralChar_of_json (all c inside)⟩
  · have decimal := afterDecimal?_of_whole isWhole (writesFraction.head_append writesExponent)
      (afterPoint_of_writes writesFraction writesExponent)
    simp only [afterNumber?, readSign_minusSign _ isWhole,
      afterHexadecimal?_of_not (noHexadecimal rfl), decimal, Option.none_or, Option.some_or]
  · intro c first
    obtain ⟨d, more, split⟩ := List.exists_cons_of_ne_nil isWhole.digits.1
    cases negative : numeral.negative with
    | true =>
      rw [negative] at first
      cases first
      decide
    | false =>
      rw [negative, split] at first
      obtain rfl : d = c := Option.some.inj first
      have digit := mem_digits (isWhole.digits.2 d (by simp [split]))
      have digits : "0123456789".toList.all (· ∈ "+-.0123456789".toList) = true := by decide
      simpa using List.all_eq_true.1 digits d digit

end

def signed (numeral : Numeral) : Int :=
  if numeral.negative then -natural numeral.whole else natural numeral.whole

def isFinite (numeral : Numeral) : Bool :=
  (Double.ofDecimal? (natural (numeral.whole ++ numeral.fraction))
    (numeral.exponent - numeral.fraction.length)).isSome

/-- Without point and exponent a numeral has to be an integer of 64 bits. -/
def InRange (numeral : Numeral) (text : List Char) : Prop :=
  if text = minusSign numeral.negative ++ numeral.whole then
    -2 ^ 63 ≤ signed numeral ∧ signed numeral < 2 ^ 63
  else isFinite numeral = true

instance (numeral : Numeral) (text : List Char) : Decidable (InRange numeral text) :=
  inferInstanceAs (Decidable (if text = minusSign numeral.negative ++ numeral.whole then
    -2 ^ 63 ≤ signed numeral ∧ signed numeral < 2 ^ 63 else isFinite numeral = true))

section

variable {numeral : Numeral} {text : List Char}

theorem char_of_whole (negative : Bool) {whole : List Char} (isWhole : IsWhole whole) :
    ∀ c ∈ minusSign negative ++ whole, c = '-' ∨ c.isDigit = true := by
  intro c inside
  rcases List.mem_append.1 inside with sign | digit
  · rw [minusSign] at sign
    split at sign
    · exact .inl (List.mem_singleton.1 sign)
    · cases sign
  · exact .inr (isWhole.digits.2 c digit)

theorem plain_of_whole (negative : Bool) {whole : List Char} (isWhole : IsWhole whole) :
    '.' ∉ minusSign negative ++ whole ∧
      ∀ c ∈ minusSign negative ++ whole, marksExponent c = false := by
  have chars := char_of_whole negative isWhole
  constructor
  · intro point
    rcases chars '.' point with other | other <;> cases other
  · intro c inside
    rcases chars c inside with rfl | digit
    · rfl
    · rw [marksExponent, Bool.or_eq_false_iff, decide_eq_false_iff_not, decide_eq_false_iff_not]
      constructor <;>
        · rintro rfl
          cases digit

theorem isInteger_of_writes (writes : WritesNumeral numeral text) :
    isInteger text = decide (text = minusSign numeral.negative ++ numeral.whole) := by
  have noHexadecimal := isHexadecimal_of_writes writes (List.nil_append text).symm
  have noName := namesNumber_of_writes writes
  obtain ⟨isWhole, fraction, exponent, writesFraction, writesExponent, rfl⟩ := writes
  rw [isInteger, noHexadecimal, noName, Bool.false_or, Bool.not_false, Bool.and_true,
    Bool.eq_iff_iff, decide_eq_true_iff, Bool.and_eq_true, Bool.not_eq_true', Bool.not_eq_true',
    ← Bool.not_eq_true, List.contains_iff_mem, List.any_eq_false]
  constructor
  · rintro ⟨noPoint, noMark⟩
    have noFraction : fraction = [] := by
      generalize numeral.fraction = digits at writesFraction
      cases writesFraction with
      | none => rfl
      | point => exact absurd (by simp) noPoint
    have noExponent : exponent = [] := by
      cases exponent with
      | nil => rfl
      | cons mark rest =>
        exact absurd (readPower?_of_writes writesExponent).1 (noMark mark (by simp))
    rw [noFraction, noExponent, List.append_nil, List.append_nil]
  · intro same
    obtain ⟨noPoint, noMark⟩ := plain_of_whole numeral.negative isWhole
    rw [same]
    exact ⟨noPoint, fun c inside => ne_true_of_eq_false (noMark c inside)⟩

theorem integerOfText_of_whole (isWhole : IsWhole numeral.whole) :
    integerOfText (minusSign numeral.negative ++ numeral.whole) =
      if -2 ^ 63 ≤ signed numeral ∧ signed numeral < 2 ^ 63 then .ok (signed numeral)
      else .error .integer := by
  have bound : integerBound = 2 ^ 63 := rfl
  have sign : readSign (minusSign numeral.negative ++ numeral.whole) =
      (numeral.negative, numeral.whole) := by
    simpa only [List.append_nil] using @readSign_minusSign numeral.negative numeral.whole [] isWhole
  have nonempty : numeral.whole.isEmpty = false := List.isEmpty_eq_false_iff.2 isWhole.digits.1
  have digits : numeral.whole.all Char.isDigit = true := List.all_eq_true.2 isWhole.digits.2
  rw [integerOfText, sign]
  simp only [nonempty, digits, bound, Bool.not_false, Bool.true_and, Bool.and_eq_true,
    decide_eq_true_eq]
  rfl

/-- Without point and exponent a numeral means an integer. -/
theorem ofText_of_whole (writes : WritesNumeral numeral text)
    (whole : text = minusSign numeral.negative ++ numeral.whole) :
    Number.ofText text =
      if -2 ^ 63 ≤ signed numeral ∧ signed numeral < 2 ^ 63 then .ok (.integer (signed numeral))
      else .error .integer := by
  have noHexadecimal := isHexadecimal_of_writes writes (List.nil_append text).symm
  rw [Number.ofText, if_pos ((isInteger_of_writes writes).trans (decide_eq_true whole)),
    noHexadecimal, if_neg Bool.false_ne_true, whole, integerOfText_of_whole writes.1]
  split <;> rfl

theorem doubleOfText_isOk_iff (writes : WritesNumeral numeral text) :
    (∃ value, doubleOfText text = .ok value) ↔ isFinite numeral = true := by
  obtain ⟨isWhole, fraction, exponent, writesFraction, writesExponent, rfl⟩ := writes
  have whole := Json.splitDigits_append isWhole.digits.2 (writesFraction.head_append writesExponent)
  have nonempty : numeral.whole.isEmpty = false := List.isEmpty_eq_false_iff.2 isWhole.digits.1
  simp only [doubleOfText, readSign_minusSign _ isWhole, whole,
    fractionAt_of_writes writesFraction writesExponent, powerAt?_of_writes writesExponent, nonempty,
    Bool.false_and, isFinite]
  cases Double.ofDecimal? (natural (numeral.whole ++ numeral.fraction))
    (numeral.exponent - numeral.fraction.length) <;> simp

theorem ofText_isOk_iff (writes : WritesNumeral numeral text) :
    (∃ value, Number.ofText text = .ok value) ↔ InRange numeral text := by
  have kind := isInteger_of_writes writes
  have noName := namesNumber_of_writes writes
  simp only [namesNumber, List.any_cons, List.any_nil, Bool.or_false, Bool.or_eq_false_iff,
    decide_eq_false_iff_not] at noName
  obtain ⟨noInfinity, noNegative, noNaN, noNegativeNaN⟩ := noName
  rw [InRange]
  split
  case isTrue whole =>
    rw [ofText_of_whole writes whole]
    split
    case isTrue inside => exact iff_of_true ⟨_, rfl⟩ inside
    case isFalse outside => exact iff_of_false nofun outside
  case isFalse other =>
    rw [← doubleOfText_isOk_iff writes, Number.ofText, kind, decide_eq_false other,
      if_neg Bool.false_ne_true, if_neg (Ne.symm noInfinity), if_neg (Ne.symm noNegative), if_neg]
    rw [Bool.or_eq_true, decide_eq_true_iff, decide_eq_true_iff]
    rintro (same | same)
    · exact noNaN same.symm
    · exact noNegativeNaN same.symm

end

end CloudAudit.Literal
