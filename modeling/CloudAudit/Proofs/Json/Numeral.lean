import CloudAudit.Json.Number
import Mathlib.Data.List.TakeWhile

/-! The texts that are numerals, said without the reader, and that the reader takes these and no
others. Whether a numeral is a number depends on the size that is reckoned for it. -/
namespace CloudAudit.Json

open Decimal

def IsDigits (text : List Char) : Prop := text ≠ [] ∧ ∀ c ∈ text, c.isDigit = true

structure IsWhole (text : List Char) : Prop where
  digits : IsDigits text
  noLeadingZero : text.length = 1 ∨ text.head? ≠ some '0'

inductive WritesFraction : List Char → List Char → Prop
  | none : WritesFraction [] []
  | point {digits : List Char} (isDigits : IsDigits digits) : WritesFraction digits ('.' :: digits)

inductive WritesExponent : Int → List Char → Prop
  | none : WritesExponent 0 []
  | unsigned {mark : Char} {digits : List Char} (marks : marksExponent mark = true)
    (isDigits : IsDigits digits) :
    WritesExponent (naturalUpTo exponentBound digits) (mark :: digits)
  | plus {mark : Char} {digits : List Char} (marks : marksExponent mark = true)
    (isDigits : IsDigits digits) :
    WritesExponent (naturalUpTo exponentBound digits) (mark :: '+' :: digits)
  | minus {mark : Char} {digits : List Char} (marks : marksExponent mark = true)
    (isDigits : IsDigits digits) :
    WritesExponent (-naturalUpTo exponentBound digits) (mark :: '-' :: digits)

def minusSign (negative : Bool) : List Char := if negative then ['-'] else []

def WritesNumeral (numeral : Numeral) (text : List Char) : Prop :=
  IsWhole numeral.whole ∧ ∃ fraction exponent, WritesFraction numeral.fraction fraction ∧
    WritesExponent numeral.exponent exponent ∧
    text = minusSign numeral.negative ++ (numeral.whole ++ (fraction ++ exponent))

theorem readDigits?_eq {text digits rest : List Char}
    (read : readDigits? text = some (digits, rest)) : IsDigits digits ∧ text = digits ++ rest := by
  rw [readDigits?] at read
  split at read
  · cases read
  case isFalse nonempty =>
    cases read
    refine ⟨⟨mt List.isEmpty_iff.2 nonempty, fun c inside => ?_⟩,
      List.takeWhile_append_dropWhile.symm⟩
    exact List.all_eq_true.1 List.all_takeWhile c inside

theorem splitDigits_append {digits rest : List Char} (all : ∀ c ∈ digits, c.isDigit = true)
    (stops : ∀ c ∈ rest.head?, c.isDigit = false) :
    splitDigits (digits ++ rest) = (digits, rest) := by
  rw [splitDigits, List.takeWhile_append_of_pos all, List.dropWhile_append_of_pos all]
  cases rest with
  | nil => simp
  | cons c more =>
    have other := stops c rfl
    simp [other]

theorem readDigits?_append {digits rest : List Char} (isDigits : IsDigits digits)
    (stops : ∀ c ∈ rest.head?, c.isDigit = false) :
    readDigits? (digits ++ rest) = some (digits, rest) := by
  rw [readDigits?, splitDigits_append isDigits.2 stops, if_neg (by simpa using isDigits.1)]

theorem readWhole?_eq {text digits rest : List Char}
    (read : readWhole? text = some (digits, rest)) : IsWhole digits ∧ text = digits ++ rest := by
  obtain ⟨first, noLeadingZero⟩ := Option.filter_eq_some_iff.1 read
  obtain ⟨isDigits, split⟩ := readDigits?_eq first
  exact ⟨⟨isDigits, by simpa using noLeadingZero⟩, split⟩

theorem readWhole?_append {digits rest : List Char} (whole : IsWhole digits)
    (stops : ∀ c ∈ rest.head?, c.isDigit = false) :
    readWhole? (digits ++ rest) = some (digits, rest) := by
  rw [readWhole?, readDigits?_append whole.digits stops]
  exact Option.filter_eq_some_iff.2 ⟨rfl, by simpa using whole.noLeadingZero⟩

theorem readFraction?_eq {text digits rest : List Char}
    (read : readFraction? text = some (digits, rest)) :
    ∃ written, WritesFraction digits written ∧ text = written ++ rest := by
  rw [readFraction?.eq_def] at read
  split at read
  · obtain ⟨isDigits, rfl⟩ := readDigits?_eq read
    exact ⟨_, .point isDigits, rfl⟩
  · cases read
    exact ⟨[], .none, rfl⟩

theorem readFraction?_append {digits written rest : List Char}
    (writes : WritesFraction digits written)
    (stops : ∀ c ∈ rest.head?, c.isDigit = false ∧ c ≠ '.') :
    readFraction? (written ++ rest) = some (digits, rest) := by
  cases writes with
  | none =>
    rw [List.nil_append, readFraction?.eq_def]
    split
    case h_1 => exact absurd rfl (stops '.' rfl).2
    case h_2 => rfl
  | point isDigits => exact readDigits?_append isDigits fun c first => (stops c first).1

theorem readSign_eq (text : List Char) :
    (∃ more, text = '-' :: more ∧ readSign text = (true, more)) ∨
      (∃ more, text = '+' :: more ∧ readSign text = (false, more)) ∨
      readSign text = (false, text) := by
  rw [readSign.eq_def]
  split
  · exact .inl ⟨_, rfl, rfl⟩
  · exact .inr (.inl ⟨_, rfl, rfl⟩)
  · exact .inr (.inr rfl)

theorem readSign_of_digits {digits : List Char} (isDigits : IsDigits digits) :
    readSign digits = (false, digits) := by
  rcases readSign_eq digits with ⟨more, rfl, _⟩ | ⟨more, rfl, _⟩ | plain
  · exact absurd (isDigits.2 '-' (.head _)) (by decide)
  · exact absurd (isDigits.2 '+' (.head _)) (by decide)
  · exact plain

theorem readPower?_eq {mark : Char} (marks : marksExponent mark = true) {text rest : List Char}
    {exponent : Int} (read : readPower? text = some (exponent, rest)) :
    ∃ written, WritesExponent exponent (mark :: written) ∧ text = written ++ rest := by
  obtain ⟨digits, first, same⟩ := Option.map_eq_some_iff.1 read
  obtain ⟨isDigits, split⟩ := readDigits?_eq first
  rcases readSign_eq text with ⟨more, rfl, sign⟩ | ⟨more, rfl, sign⟩ | sign <;>
    rw [sign] at split same <;> cases same
  · exact ⟨'-' :: digits.1, .minus marks isDigits, congrArg ('-' :: ·) split⟩
  · exact ⟨'+' :: digits.1, .plus marks isDigits, congrArg ('+' :: ·) split⟩
  · exact ⟨digits.1, .unsigned marks isDigits, split⟩

theorem readExponent?_eq {text rest : List Char} {exponent : Int}
    (read : readExponent? text = some (exponent, rest)) :
    ∃ written, WritesExponent exponent written ∧ text = written ++ rest := by
  match text with
  | [] =>
    cases read
    exact ⟨[], .none, rfl⟩
  | c :: more =>
    rw [readExponent?] at read
    split at read
    case isTrue marks =>
      obtain ⟨written, writes, rfl⟩ := readPower?_eq marks read
      exact ⟨c :: written, writes, rfl⟩
    case isFalse =>
      cases read
      exact ⟨[], .none, rfl⟩

theorem readExponent?_of_writes {exponent : Int} {written : List Char}
    (writes : WritesExponent exponent written) :
    readExponent? written = some (exponent, []) := by
  have whole {digits : List Char} (isDigits : IsDigits digits) :
      readDigits? digits = some (digits, []) := by
    have stops : ∀ c ∈ ([] : List Char).head?, c.isDigit = false := nofun
    simpa using readDigits?_append isDigits stops
  cases writes with
  | none => rfl
  | unsigned marks isDigits =>
    rw [readExponent?, if_pos marks, readPower?, readSign_of_digits isDigits, whole isDigits]
    rfl
  | plus marks isDigits =>
    rw [readExponent?, if_pos marks, readPower?, readSign, whole isDigits]
    rfl
  | minus marks isDigits =>
    rw [readExponent?, if_pos marks, readPower?, readSign, whole isDigits]
    rfl

theorem WritesFraction.head {digits written : List Char} (writes : WritesFraction digits written) :
    ∀ c ∈ written.head?, c.isDigit = false := by
  intro c first
  cases writes with
  | none => cases first
  | point =>
    cases first
    rfl

theorem WritesExponent.head {exponent : Int} {written : List Char}
    (writes : WritesExponent exponent written) :
    ∀ c ∈ written.head?, c.isDigit = false ∧ c ≠ '.' := by
  have ofMark {mark : Char} (marks : marksExponent mark = true) :
      mark.isDigit = false ∧ mark ≠ '.' := by
    simp only [marksExponent, Bool.or_eq_true, decide_eq_true_eq] at marks
    rcases marks with rfl | rfl <;> decide
  intro c first
  cases writes with
  | none => cases first
  | unsigned marks | plus marks | minus marks =>
    cases first
    exact ofMark marks

theorem WritesFraction.head_append {digits fraction : List Char}
    (writes : WritesFraction digits fraction) {exponent : Int} {written : List Char}
    (writesExponent : WritesExponent exponent written) :
    ∀ c ∈ (fraction ++ written).head?, c.isDigit = false := by
  intro c first
  rw [List.head?_append, Option.mem_def, Option.or_eq_some_iff] at first
  rcases first with first | ⟨_, first⟩
  · exact writes.head c first
  · exact (writesExponent.head c first).1

theorem readMinus_eq (text : List Char) :
    text = minusSign (readMinus text).1 ++ (readMinus text).2 := by
  rw [readMinus.eq_def]
  split <;> rfl

theorem readNumeral?_eq {text rest : List Char} {numeral : Numeral}
    (read : readNumeral? text = some (numeral, rest)) :
    ∃ written, WritesNumeral numeral written ∧ text = written ++ rest := by
  obtain ⟨whole, readWhole, read⟩ := Option.bind_eq_some_iff.1 read
  obtain ⟨fraction, readFraction, read⟩ := Option.bind_eq_some_iff.1 read
  obtain ⟨exponent, readExponent, same⟩ := Option.map_eq_some_iff.1 read
  cases same
  obtain ⟨isWhole, behindSign⟩ := readWhole?_eq readWhole
  obtain ⟨fractionText, writesFraction, behindWhole⟩ := readFraction?_eq readFraction
  obtain ⟨exponentText, writesExponent, behindFraction⟩ := readExponent?_eq readExponent
  refine ⟨_, ⟨isWhole, fractionText, exponentText, writesFraction, writesExponent, rfl⟩, ?_⟩
  have sign := readMinus_eq text
  rw [behindSign, behindWhole, behindFraction] at sign
  simpa using sign

theorem readMinus_append {negative : Bool} {whole rest : List Char} (isWhole : IsWhole whole) :
    readMinus (minusSign negative ++ (whole ++ rest)) = (negative, whole ++ rest) := by
  cases negative with
  | true => rfl
  | false =>
    obtain ⟨c, more, split⟩ := List.exists_cons_of_ne_nil isWhole.digits.1
    have digit := isWhole.digits.2 c (by simp [split])
    rw [minusSign, if_neg Bool.false_ne_true, List.nil_append, split, readMinus.eq_def]
    split
    case h_1 same =>
      cases same
      cases digit
    case h_2 => rfl

theorem readNumeral?_of_writes {numeral : Numeral} {text : List Char}
    (writes : WritesNumeral numeral text) : readNumeral? text = some (numeral, []) := by
  obtain ⟨isWhole, fraction, exponent, writesFraction, writesExponent, rfl⟩ := writes
  have behindFraction := writesExponent.head
  have behindWhole := writesFraction.head_append writesExponent
  rw [readNumeral?, readMinus_append isWhole, readWhole?_append isWhole behindWhole,
    Option.bind_some, readFraction?_append writesFraction behindFraction, Option.bind_some,
    readExponent?_of_writes writesExponent]
  rfl

theorem writesNumeral_iff {numeral : Numeral} {text : List Char} :
    WritesNumeral numeral text ↔ readNumeral? text = some (numeral, []) := by
  refine ⟨readNumeral?_of_writes, fun read => ?_⟩
  obtain ⟨written, writes, split⟩ := readNumeral?_eq read
  rw [List.append_nil] at split
  exact split ▸ writes

instance (numeral : Numeral) (text : List Char) : Decidable (WritesNumeral numeral text) :=
  decidable_of_iff _ writesNumeral_iff.symm

instance (P : Numeral → Prop) [DecidablePred P] (text : List Char) :
    Decidable (∀ numeral, WritesNumeral numeral text → P numeral) :=
  decidable_of_iff (∀ read ∈ readNumeral? text, read.2 = [] → P read.1) <| by
    constructor
    · exact fun each numeral writes => each _ (writesNumeral_iff.1 writes) rfl
    · rintro each ⟨numeral, _⟩ read rfl
      exact each numeral (writesNumeral_iff.2 read)

theorem WritesNumeral.unique {one other : Numeral} {text : List Char}
    (writes : WritesNumeral one text) (writesOther : WritesNumeral other text) : one = other := by
  have read := writesNumeral_iff.1 writes
  rw [writesNumeral_iff.1 writesOther] at read
  cases read
  rfl

/-- A number is a numeral that is not reckoned too large. -/
theorem isNumber_iff {text : List Char} :
    isNumber text = true ↔ ∃ numeral, WritesNumeral numeral text ∧ overflows numeral = false := by
  simp only [writesNumeral_iff]
  constructor
  · intro number
    rw [isNumber] at number
    split at number
    case h_1 numeral read => exact ⟨numeral, read, by simpa using number⟩
    case h_2 => cases number
  · rintro ⟨numeral, read, fits⟩
    simp [isNumber, read, fits]

theorem IsDigits.isNumeralChar {digits : List Char} (isDigits : IsDigits digits) :
    ∀ c ∈ digits, isNumeralChar c = true := by
  intro c inside
  simp [Json.isNumeralChar, isDigits.2 c inside]

theorem WritesFraction.isNumeralChar {digits written : List Char}
    (writes : WritesFraction digits written) : ∀ c ∈ written, isNumeralChar c = true := by
  cases writes with
  | none => exact List.forall_mem_nil _
  | point isDigits => exact List.forall_mem_cons.2 ⟨rfl, isDigits.isNumeralChar⟩

theorem WritesExponent.isNumeralChar {exponent : Int} {written : List Char}
    (writes : WritesExponent exponent written) : ∀ c ∈ written, isNumeralChar c = true := by
  have ofMark {mark : Char} (marks : marksExponent mark = true) :
      Json.isNumeralChar mark = true := by
    simp [Json.isNumeralChar, marks]
  cases writes with
  | none => exact List.forall_mem_nil _
  | unsigned marks isDigits => exact List.forall_mem_cons.2 ⟨ofMark marks, isDigits.isNumeralChar⟩
  | plus marks isDigits | minus marks isDigits =>
    exact List.forall_mem_cons.2
      ⟨ofMark marks, List.forall_mem_cons.2 ⟨rfl, isDigits.isNumeralChar⟩⟩

theorem WritesNumeral.isNumeralChar {numeral : Numeral} {text : List Char}
    (writes : WritesNumeral numeral text) : ∀ c ∈ text, isNumeralChar c = true := by
  obtain ⟨isWhole, fraction, exponent, writesFraction, writesExponent, rfl⟩ := writes
  have sign : ∀ c ∈ minusSign numeral.negative, Json.isNumeralChar c = true := by
    cases numeral.negative with
    | true => exact List.forall_mem_cons.2 ⟨rfl, List.forall_mem_nil _⟩
    | false => exact List.forall_mem_nil _
  intro c inside
  simp only [List.mem_append] at inside
  rcases inside with inside | inside | inside | inside
  · exact sign c inside
  · exact isWhole.digits.isNumeralChar c inside
  · exact writesFraction.isNumeralChar c inside
  · exact writesExponent.isNumeralChar c inside

end CloudAudit.Json
