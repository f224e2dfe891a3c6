/-! The network location of a URL: what stands between two slashes and the first slash, question
mark or number sign, exactly as it is written. A scheme may stand before the slashes. -/
namespace CloudAudit

def isScheme : List Char → Bool
  | [] => false
  | c :: rest =>
    c.isAlpha && rest.all fun c => c.isAlphanum || c = '+' || c = '-' || c = '.'

def endsAuthority (c : Char) : Bool := c = '/' || c = '?' || c = '#'

/-- The URL from its slashes on; a colon that no scheme stands before is part of the text. -/
def withoutScheme (url : List Char) : List Char :=
  match url.dropWhile (· ≠ ':') with
  | [] => url
  | _ :: rest => if isScheme (url.takeWhile (· ≠ ':')) then rest else url

def networkLocation? (url : String) : Option String :=
  match withoutScheme url.toList with
  | '/' :: '/' :: rest =>
    match rest.takeWhile (!endsAuthority ·) with
    | [] => none
    | location => some (String.ofList location)
  | _ => none

end CloudAudit
