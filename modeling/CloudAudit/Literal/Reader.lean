import CloudAudit.Literal.Token

/-! Literals as trees of values, each with the text from its start on. -/
namespace CloudAudit

namespace Literal

structure Key where
  source : List Char
  pieces : List Literal.Piece
deriving DecidableEq, Repr

end Literal

inductive Literal where
  | null (source : List Char)
  | bool (source : List Char) (value : Bool)
  | number (source : List Char) (text : List Char)
  | string (source : List Char) (pieces : List Literal.Piece)
  | list (source : List Char) (items : List Literal)
  | record (source : List Char) (members : List (Literal.Key × Literal))
deriving Repr

namespace Literal

def source : Literal → List Char
  | null source | bool source _ | number source _ | string source _ | list source _
  | record source _ => source

/-- The names that stand as values, none of them spelled with a code. -/
def named? (source : List Char) (pieces : List Piece) : Option Literal :=
  let is (name : String) := pieces = name.toList.map fun c => Piece.char c [c]
  if is "null" then some (.null source)
  else if is "true" then some (.bool source true)
  else if is "false" then some (.bool source false)
  else if is "Infinity" then some (.number source "Infinity".toList)
  else if is "NaN" then some (.number source "NaN".toList)
  else none

def format : Outline.Format (List Char) Word Key Literal where
  key word :=
    match word.form with
    | .string pieces | .name pieces => some ⟨word.source, pieces⟩
    | .number _ => none
  value word :=
    match word.form with
    | .string pieces => some (.string word.source pieces)
    | .name pieces => named? word.source pieces
    | .number text => some (.number word.source text)
  list := .list
  record := .record
  closingComma := true
  depth := none

def readTokens (done : List Token) (text : List Char) : Option (List Token) :=
  match _gap : skipGap .open text with
  | none => none
  | some [] => some done.reverse
  | some (c :: rest) =>
    match _found : readToken? c rest with
    | none => none
    | some token => readTokens (token.1 :: done) token.2
termination_by text.length
decreasing_by
  exact Nat.lt_of_lt_of_le (Nat.lt_succ_of_le (readToken?_length _found)) (skipGap_length _gap)

def read? (text : List Char) : Option Literal := (readTokens [] text).bind format.read

end Literal

end CloudAudit
