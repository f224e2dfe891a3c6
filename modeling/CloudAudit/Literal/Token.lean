import CloudAudit.Decimal.Numeral
import CloudAudit.Outline
import CloudAudit.Text.Hexadecimal
import CloudAudit.Text.Identifier
import CloudAudit.Text.Runs

/-! Tokens of JSON5 literals. Strings stand in either kind of quotation marks, keys may be bare
names, numbers have more forms than in JSON, and comments may stand between any two tokens. What a
number or a string means is not decided here: tokens hold it as it is written, together with the
text from their start on. -/
namespace CloudAudit.Literal

open Text Decimal

inductive Piece where
  | char (c : Char) (spelling : List Char)
  | code (code : Nat) (spelling : List Char)
deriving DecidableEq, Repr

def Piece.spelling : Piece → List Char
  | char _ spelling | code _ spelling => spelling

inductive Form where
  | string (pieces : List Piece)
  | name (pieces : List Piece)
  | number (text : List Char)
deriving DecidableEq, Repr

/-- A form and the text from its start on. -/
structure Word where
  source : List Char
  form : Form
deriving DecidableEq, Repr

abbrev Token := Outline.Token (List Char) Word

def spaceSeparators : Runs :=
  [(0x20, 0x20), (0xA0, 0xA0), (0x1680, 0x1680), (0x2000, 0x200A), (0x202F, 0x202F),
  (0x205F, 0x205F), (0x3000, 0x3000)]

def endsLine (c : Char) : Bool := c = '\n' || c = '\r' || c = '\u2028' || c = '\u2029'

def isBlank (c : Char) : Bool :=
  endsLine c || c = '\t' || c = '\x0b' || c = '\x0c' || c = '\ufeff' || spaceSeparators.has c

inductive Gap where
  | open
  | line
  | block

def skipGap : Gap → List Char → Option (List Char)
  | .open, '/' :: '/' :: rest => skipGap .line rest
  | .open, '/' :: '*' :: rest => skipGap .block rest
  | .open, c :: rest => if isBlank c then skipGap .open rest else some (c :: rest)
  | .line, c :: rest => if endsLine c then skipGap .open rest else skipGap .line rest
  | .block, '*' :: '/' :: rest => skipGap .open rest
  | .block, _ :: rest => skipGap .block rest
  | .block, [] => none
  | _, [] => some []

def escaped? (c : Char) : Option Char :=
  match c with
  | 'b' => some '\x08'
  | 'f' => some '\x0c'
  | 'n' => some '\n'
  | 'r' => some '\r'
  | 't' => some '\t'
  | 'v' => some '\x0b'
  | '0' => some '\x00'
  | c => if c.isDigit || c = 'x' || c = 'u' then none else some c

/-- The pieces of a string up to the closing mark, in front of `done` last piece first. A backslash
at the end of a line joins it with the next. -/
def readPieces (mark : Char) (done : List Piece) : List Char → Option (List Piece × List Char)
  | [] => none
  | '\\' :: 'u' :: a :: b :: c :: d :: rest =>
    match hexNumber? [a, b, c, d] with
    | some code => readPieces mark (.code code [a, b, c, d] :: done) rest
    | none => none
  | '\\' :: 'x' :: a :: b :: rest =>
    match hexNumber? [a, b] with
    | some code => readPieces mark (.char (Char.ofNat code) [a, b] :: done) rest
    | none => none
  | '\\' :: '\r' :: '\n' :: rest => readPieces mark done rest
  | '\\' :: c :: rest =>
    if endsLine c then readPieces mark done rest
    else match escaped? c with
      | some meant => readPieces mark (.char meant [c] :: done) rest
      | none => none
  | c :: rest =>
    if c = mark then some (done.reverse, rest)
    else if c = '\\' || endsLine c then none
    else readPieces mark (.char c [c] :: done) rest

def readName (done : List Piece) : List Char → List Piece × List Char
  | [] => (done.reverse, [])
  | '\\' :: 'u' :: a :: b :: c :: d :: rest =>
    match hexNumber? [a, b, c, d] with
    | some code => readName (.code code [a, b, c, d] :: done) rest
    | none => (done.reverse, '\\' :: 'u' :: a :: b :: c :: d :: rest)
  | c :: rest =>
    if isIdentifierPart c then readName (.char c [c] :: done) rest else (done.reverse, c :: rest)

def afterExponent : List Char → List Char
  | [] => []
  | c :: rest =>
    if marksExponent c then (readPower? rest).elim (c :: rest) (·.2) else c :: rest

def afterPoint : List Char → List Char
  | '.' :: rest => afterExponent (rest.dropWhile Char.isDigit)
  | text => afterExponent text

def afterDecimal? : List Char → Option (List Char)
  | '0' :: rest => some (afterPoint rest)
  | '.' :: c :: rest =>
    if c.isDigit then some (afterExponent (rest.dropWhile Char.isDigit)) else none
  | c :: rest => if c.isDigit then some (afterPoint (rest.dropWhile Char.isDigit)) else none
  | [] => none

def afterHexadecimal? : List Char → Option (List Char)
  | '0' :: x :: c :: rest =>
    if (x = 'x' || x = 'X') && isHexDigit c then some (rest.dropWhile isHexDigit) else none
  | _ => none

def afterName? (name text : List Char) : Option (List Char) :=
  if name.isPrefixOf text then some (text.drop name.length) else none

def afterNumber? (text : List Char) : Option (List Char) :=
  let text := (readSign text).2
  (afterHexadecimal? text).or ((afterDecimal? text).or
    ((afterName? "Infinity".toList text).or (afterName? "NaN".toList text)))

def isNumeralChar (c : Char) : Bool := c.isAlphanum || c = '+' || c = '-' || c = '.'

/-- The longest text of characters that numbers have, if it is a number; nothing that a number may
be followed by is among them. -/
def readNumber? (text : List Char) : Option (List Char × List Char) :=
  let number := text.takeWhile isNumeralChar
  if afterNumber? number = some [] then some (number, text.dropWhile isNumeralChar) else none

def readName? : List Char → Option (List Piece × List Char)
  | '\\' :: 'u' :: a :: b :: c :: d :: rest =>
    (hexNumber? [a, b, c, d]).map fun code => readName [.code code [a, b, c, d]] rest
  | c :: rest => if isIdentifierStart c then some (readName [.char c [c]] rest) else none
  | [] => none

def startsNumber (c : Char) : Bool := c.isDigit || c = '+' || c = '-' || c = '.'

def readToken? (c : Char) (rest : List Char) : Option (Token × List Char) :=
  let source := c :: rest
  match c with
  | '[' => some (.openList source, rest)
  | ']' => some (.closeList, rest)
  | '{' => some (.openRecord source, rest)
  | '}' => some (.closeRecord, rest)
  | ',' => some (.comma, rest)
  | ':' => some (.colon, rest)
  | c =>
    if c = '"' || c = '\'' then
      (readPieces c [] rest).map fun string => (.word ⟨source, .string string.1⟩, string.2)
    else if startsNumber c then
      (readNumber? source).map fun number => (.word ⟨source, .number number.1⟩, number.2)
    else (readName? source).map fun name => (.word ⟨source, .name name.1⟩, name.2)

@[simp] theorem skipGap_slashes (rest : List Char) :
    skipGap .open ('/' :: '/' :: rest) = skipGap .line rest := rfl

@[simp] theorem skipGap_slash_star (rest : List Char) :
    skipGap .open ('/' :: '*' :: rest) = skipGap .block rest := rfl

@[simp] theorem skipGap_line_cons (c : Char) (rest : List Char) : skipGap .line (c :: rest) =
    if endsLine c then skipGap .open rest else skipGap .line rest := rfl

@[simp] theorem skipGap_star_slash (rest : List Char) :
    skipGap .block ('*' :: '/' :: rest) = skipGap .open rest := rfl

theorem skipGap_open_cons {c : Char} {rest : List Char}
    (noLine : ∀ tail, c = '/' → rest = '/' :: tail → False)
    (noBlock : ∀ tail, c = '/' → rest = '*' :: tail → False) : skipGap .open (c :: rest) =
      if isBlank c then skipGap .open rest else some (c :: rest) := by
  rw [skipGap.eq_def]
  split <;> simp_all

theorem skipGap_of_ne_slash {c : Char} (noSlash : c ≠ '/') (rest : List Char) :
    skipGap .open (c :: rest) =
      if isBlank c then skipGap .open rest else some (c :: rest) :=
  skipGap_open_cons (fun _ slash _ => noSlash slash) (fun _ slash _ => noSlash slash)

theorem skipGap_block_cons {c : Char} {rest : List Char}
    (noEnd : ∀ tail, c = '*' → rest = '/' :: tail → False) :
    skipGap .block (c :: rest) = skipGap .block rest := by
  rw [skipGap.eq_def]
  split <;> simp_all

theorem skipGap_length {gap : Gap} {text rest : List Char} (found : skipGap gap text = some rest) :
    rest.length ≤ text.length := by
  fun_induction skipGap gap text <;> simp_all <;> omega

theorem readPieces_length {mark : Char} {done : List Piece} {text : List Char}
    {string : List Piece × List Char} (found : readPieces mark done text = some string) :
    string.2.length < text.length := by
  fun_induction readPieces mark done text
  case case10 => cases found; exact Nat.lt_succ_self _
  all_goals simp_all
  all_goals omega

theorem readName_length (done : List Piece) (text : List Char) :
    (readName done text).2.length ≤ text.length := by
  fun_induction readName done text <;> simp_all <;> omega

theorem readName?_length {c : Char} {rest : List Char} {name : List Piece × List Char}
    (found : readName? (c :: rest) = some name) : name.2.length ≤ rest.length := by
  unfold readName? at found
  split at found
  · rename_i same
    cases same
    obtain ⟨code, digits, rfl⟩ := Option.map_eq_some_iff.1 found
    refine Nat.le_trans (readName_length _ _) ?_
    simp only [List.length_cons]
    omega
  · rename_i same
    cases same
    split at found
    · cases found; exact readName_length _ _
    · cases found
  · cases found

theorem afterNumber?_nil : afterNumber? [] = none := rfl

theorem readNumber?_length {text : List Char} {number : List Char × List Char}
    (found : readNumber? text = some number) : number.2.length < text.length := by
  unfold readNumber? at found
  simp only at found
  split at found
  · rename_i valid
    cases found
    have total := congrArg List.length
      (List.takeWhile_append_dropWhile (p := isNumeralChar) (l := text))
    have : text.takeWhile isNumeralChar ≠ [] := fun empty => by
      rw [empty, afterNumber?_nil] at valid
      cases valid
    have := List.length_pos_iff.2 this
    rw [List.length_append] at total
    show (text.dropWhile isNumeralChar).length < _
    omega
  · cases found

theorem readToken?_length {c : Char} {rest : List Char} {token : Token × List Char}
    (found : readToken? c rest = some token) : token.2.length ≤ rest.length := by
  unfold readToken? at found
  split at found
  case h_7 =>
    split at found
    · obtain ⟨string, read, rfl⟩ := Option.map_eq_some_iff.1 found
      exact Nat.le_of_lt (readPieces_length read)
    split at found
    · obtain ⟨number, read, rfl⟩ := Option.map_eq_some_iff.1 found
      exact Nat.le_of_lt_succ (readNumber?_length read)
    · obtain ⟨name, read, rfl⟩ := Option.map_eq_some_iff.1 found
      exact readName?_length read
  all_goals cases found; exact Nat.le_refl _

end CloudAudit.Literal
