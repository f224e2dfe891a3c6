/-! Places in a text. A place is found from what has been read before it. -/
namespace CloudAudit.Text

/-- Line and column, both counted from one; a line feed ends a line. -/
structure Place where
  line : Nat
  column : Nat
deriving DecidableEq, Repr

def Place.after (read : List Char) : Place :=
  ⟨read.count '\n' + 1, (read.reverse.takeWhile (· ≠ '\n')).length + 1⟩

def Place.ofRest (text rest : List Char) : Place :=
  Place.after (text.take (text.length - rest.length))

end CloudAudit.Text
