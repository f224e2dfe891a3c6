import CloudAudit.Json.Value
import CloudAudit.Text.Hexadecimal

/-! JSON texts: on one line without blanks, or laid out over lines with two blanks for every level,
where empty arrays and objects stay on their line. Only quotation marks, backslashes and controls
are escaped. -/
namespace CloudAudit.Json

def controlEscape (code : Nat) : List Char :=
  let digits := Text.hexadecimal code
  ['\\', 'u'] ++ List.replicate (4 - digits.length) '0' ++ digits

def escapedChar (c : Char) : List Char :=
  match c with
  | '"' => ['\\', '"']
  | '\\' => ['\\', '\\']
  | '\x08' => ['\\', 'b']
  | '\x0c' => ['\\', 'f']
  | '\n' => ['\\', 'n']
  | '\r' => ['\\', 'r']
  | '\t' => ['\\', 't']
  | c => if c.toNat < 0x20 then controlEscape c.toNat else [c]

def quotedString (s : String) : List Char := '"' :: s.toList.flatMap escapedChar ++ ['"']

mutual

def write : Json → List Char
  | .null => "null".toList
  | .bool true => "true".toList
  | .bool false => "false".toList
  | .number text => text.toList
  | .string text => quotedString text
  | .array [] => ['[', ']']
  | .array (item :: rest) => '[' :: write item ++ writeItems rest ++ [']']
  | .object [] => ['{', '}']
  | .object ((key, value) :: rest) =>
    '{' :: quotedString key ++ ':' :: write value ++ writeMembers rest ++ ['}']

def writeItems : List Json → List Char
  | [] => []
  | item :: rest => ',' :: write item ++ writeItems rest

def writeMembers : List (String × Json) → List Char
  | [] => []
  | (key, value) :: rest => ',' :: quotedString key ++ ':' :: write value ++ writeMembers rest

end

def compact (value : Json) : String := String.ofList (write value)

def lineBreak (level : Nat) : List Char := '\n' :: List.replicate (2 * level) ' '

mutual

def layOut (level : Nat) : Json → List Char
  | .null => "null".toList
  | .bool true => "true".toList
  | .bool false => "false".toList
  | .number text => text.toList
  | .string text => quotedString text
  | .array [] => ['[', ']']
  | .array (item :: rest) =>
    '[' :: lineBreak (level + 1) ++ layOut (level + 1) item ++ layOutItems (level + 1) rest ++
      lineBreak level ++ [']']
  | .object [] => ['{', '}']
  | .object ((key, value) :: rest) =>
    '{' :: lineBreak (level + 1) ++ quotedString key ++ [':', ' '] ++ layOut (level + 1) value ++
      layOutMembers (level + 1) rest ++ lineBreak level ++ ['}']

def layOutItems (level : Nat) : List Json → List Char
  | [] => []
  | item :: rest => ',' :: lineBreak level ++ layOut level item ++ layOutItems level rest

def layOutMembers (level : Nat) : List (String × Json) → List Char
  | [] => []
  | (key, value) :: rest =>
    ',' :: lineBreak level ++ quotedString key ++ [':', ' '] ++ layOut level value ++
      layOutMembers level rest

end

def pretty (value : Json) : String := String.ofList (layOut 0 value)

end CloudAudit.Json
