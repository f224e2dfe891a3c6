import CloudAudit.Text.Case

/-! Lowercasing of a whole text. Every character goes to its small letters by itself, except the
capital sigma, whose small letter depends on whether it ends a word. -/
namespace CloudAudit.Text

def meetsCased (s : List Char) : Bool :=
  match s.dropWhile caseIgnorable.has with
  | [] => false
  | c :: _ => cased.has c

/-- A capital sigma ends a word when a cased character stands before it and none after it. -/
def sigma (before after : List Char) : Char :=
  if meetsCased before && !meetsCased after then 'ς' else 'σ'

/-- The characters before the text are given last one first. -/
def lowercaseAfter (before : List Char) : List Char → List Char
  | [] => []
  | c :: rest =>
    (if c = 'Σ' then [sigma before rest] else smallLetters c) ++ lowercaseAfter (c :: before) rest

def lowercase (s : String) : String := String.ofList (lowercaseAfter [] s.toList)

end CloudAudit.Text
