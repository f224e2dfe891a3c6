import CloudAudit.Json.Number
import CloudAudit.Json.Value
import CloudAudit.Outline
import CloudAudit.Text.Hexadecimal

/-! Strict reading of JSON: one value, with blanks around its tokens and nothing else before or
after it. -/
namespace CloudAudit.Json

open Outline Text

abbrev Token := Outline.Token Unit Json

/-- At most this many arrays and objects may be open at once. -/
def deepest : Nat := 127

def format : Format Unit Json String Json where
  key
    | .string text => some text
    | _ => none
  value := some
  list _ items := .array items
  record _ members := .object members
  closingComma := false
  depth := some deepest

def isBlank (c : Char) : Bool := c = ' ' || c = '\t' || c = '\n' || c = '\r'

inductive Piece where
  | char (c : Char)
  | code (code : Nat)
deriving DecidableEq, Repr

def plainEscape? (c : Char) : Option Char :=
  match c with
  | '"' => some '"'
  | '\\' => some '\\'
  | '/' => some '/'
  | 'b' => some '\x08'
  | 'f' => some '\x0c'
  | 'n' => some '\n'
  | 'r' => some '\r'
  | 't' => some '\t'
  | _ => none

/-- The pieces up to the closing quotation mark, in front of `done` last piece first. -/
def readPieces (done : List Piece) : List Char → Option (List Piece × List Char)
  | [] => none
  | '"' :: rest => some (done.reverse, rest)
  | '\\' :: 'u' :: a :: b :: c :: d :: rest =>
    match hexNumber? [a, b, c, d] with
    | some code => readPieces (.code code :: done) rest
    | none => none
  | '\\' :: c :: rest =>
    match plainEscape? c with
    | some c => readPieces (.char c :: done) rest
    | none => none
  | c :: rest => if c.toNat < 0x20 then none else readPieces (.char c :: done) rest

def joinPieces (done : List Char) : List Piece → Option (List Char)
  | [] => some done.reverse
  | .char c :: rest => joinPieces (c :: done) rest
  | .code lead :: .code trail :: rest =>
    if isLeadSurrogate lead then
      if isTrailSurrogate trail then
        joinPieces (Char.ofNat (0x10000 + (lead - 0xD800) * 0x400 + (trail - 0xDC00)) :: done) rest
      else none
    else if isTrailSurrogate lead then none
    else joinPieces (Char.ofNat lead :: done) (.code trail :: rest)
  | .code code :: rest =>
    if isLeadSurrogate code || isTrailSurrogate code then none
    else joinPieces (Char.ofNat code :: done) rest

def readString? (text : List Char) : Option (String × List Char) :=
  (readPieces [] text).bind fun pieces =>
    (joinPieces [] pieces.1).map fun s => (String.ofList s, pieces.2)

def readName? (name : List Char) (value : Json) (text : List Char) : Option (Token × List Char) :=
  if name.isPrefixOf text then some (.word value, text.drop name.length) else none

def readToken? (c : Char) (rest : List Char) : Option (Token × List Char) :=
  match c with
  | '[' => some (.openList (), rest)
  | ']' => some (.closeList, rest)
  | '{' => some (.openRecord (), rest)
  | '}' => some (.closeRecord, rest)
  | ',' => some (.comma, rest)
  | ':' => some (.colon, rest)
  | '"' => (readString? rest).map fun string => (.word (.string string.1), string.2)
  | 'n' => readName? "ull".toList .null rest
  | 't' => readName? "rue".toList (.bool true) rest
  | 'f' => readName? "alse".toList (.bool false) rest
  | c => (readNumber? (c :: rest)).map fun number => (.word (.number number.1), number.2)

theorem readPieces_length {done : List Piece} {text : List Char} {pieces : List Piece × List Char}
    (found : readPieces done text = some pieces) : pieces.2.length < text.length := by
  fun_induction readPieces done text with
  | case1 | case4 | case6 | case7 => cases found
  | case2 => cases found; exact Nat.lt_succ_self _
  | case3 _ _ _ _ _ _ _ _ ih => have := ih found; simp only [List.length_cons]; omega
  | case5 _ _ _ _ _ _ ih => have := ih found; simp only [List.length_cons]; omega
  | case8 _ _ _ _ _ _ _ ih => have := ih found; simp only [List.length_cons]; omega

theorem readString?_length {text : List Char} {string : String × List Char}
    (found : readString? text = some string) : string.2.length < text.length := by
  obtain ⟨pieces, first, found⟩ := Option.bind_eq_some_iff.1 found
  obtain ⟨s, joined, rfl⟩ := Option.map_eq_some_iff.1 found
  exact readPieces_length first

theorem readName?_length {name : List Char} {value : Json} {text : List Char}
    {token : Token × List Char} (found : readName? name value text = some token) :
    token.2.length ≤ text.length := by
  unfold readName? at found
  split at found
  · cases found; simp
  · cases found

theorem readToken?_length {c : Char} {rest : List Char} {token : Token × List Char}
    (found : readToken? c rest = some token) : token.2.length ≤ rest.length := by
  unfold readToken? at found
  split at found
  case h_7 =>
    obtain ⟨string, read, rfl⟩ := Option.map_eq_some_iff.1 found
    exact Nat.le_of_lt (readString?_length read)
  case h_8 => exact readName?_length found
  case h_9 => exact readName?_length found
  case h_10 => exact readName?_length found
  case h_11 =>
    obtain ⟨number, read, rfl⟩ := Option.map_eq_some_iff.1 found
    exact Nat.le_of_lt_succ (readNumber?_length read)
  all_goals cases found; exact Nat.le_refl _

def readTokens (done : List Token) (text : List Char) : Option (List Token) :=
  match text with
  | [] => some done.reverse
  | c :: rest =>
    if isBlank c then readTokens done rest
    else
      match _found : readToken? c rest with
      | none => none
      | some token => readTokens (token.1 :: done) token.2
termination_by text.length
decreasing_by
  · exact Nat.lt_succ_self _
  · exact Nat.lt_succ_of_le (readToken?_length _found)

def read? (text : List Char) : Option Json := (readTokens [] text).bind format.read

def ofBytes? (bytes : ByteArray) : Option Json :=
  (String.fromUTF8? bytes).bind fun text => read? text.toList

end CloudAudit.Json
