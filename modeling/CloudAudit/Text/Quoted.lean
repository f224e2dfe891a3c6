import CloudAudit.Text.Hexadecimal
import CloudAudit.Text.Printable

/-! Texts in quotation marks, for messages. Printable characters stand for themselves. -/
namespace CloudAudit.Text

def quotedChar (c : Char) : List Char :=
  match c with
  | '\x00' => ['\\', '0']
  | '\t' => ['\\', 't']
  | '\r' => ['\\', 'r']
  | '\n' => ['\\', 'n']
  | '"' => ['\\', '"']
  | '\\' => ['\\', '\\']
  | _ =>
    if isPrintable c then [c] else ['\\', 'u', '{'] ++ hexadecimal c.toNat ++ ['}']

def quoted (s : String) : String :=
  String.ofList ('"' :: s.toList.flatMap quotedChar ++ ['"'])

end CloudAudit.Text
