/-! Classes of characters, written as runs of code points in increasing order. -/
namespace CloudAudit.Text

abbrev Runs := List (Nat × Nat)

def Runs.hasCode : Runs → Nat → Bool
  | [], _ => false
  | (first, last) :: rest, code =>
    if code < first then false else if code ≤ last then true else Runs.hasCode rest code

/-- The search ends at the first run that starts after the character. -/
def Runs.has (runs : Runs) (c : Char) : Bool := runs.hasCode c.toNat

end CloudAudit.Text
