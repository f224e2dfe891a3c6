import CloudAudit.NetworkLocation

/-! Request URIs in their four forms: a path, an absolute URI, an authority alone, a star. Nothing
in them is decoded. -/
namespace CloudAudit.Http

structure Uri where
  scheme : Option String
  authority : Option String
  path : String
  query : Option String
deriving DecidableEq, Repr

namespace Uri

def httpScheme (scheme : List Char) : Bool :=
  let scheme := scheme.map Char.toLower
  scheme = "http".toList || scheme = "https".toList

/-- The two schemes of HTTP are written in small letters, others as they are. -/
def schemeText (scheme : List Char) : String :=
  String.ofList (if httpScheme scheme then scheme.map Char.toLower else scheme)

def isSchemeChar (c : Char) : Bool := c.isAlphanum || c = '+' || c = '-' || c = '.'

def splitScheme? (text : List Char) : Option (List Char × List Char) :=
  match text.dropWhile isSchemeChar with
  | ':' :: '/' :: '/' :: rest => some (text.takeWhile isSchemeChar, rest)
  | _ => none

def withoutFragment (text : List Char) : List Char := text.takeWhile (· ≠ '#')

def pathOf (text : List Char) : List Char := (withoutFragment text).takeWhile (· ≠ '?')

def queryOf (text : List Char) : Option String :=
  match (withoutFragment text).dropWhile (· ≠ '?') with
  | [] => none
  | _ :: query => some (String.ofList query)

def ofPath (text : List Char) : Uri := ⟨none, none, String.ofList (pathOf text), queryOf text⟩

/-- An absolute URI without a path has the path `/`. -/
def absolute (scheme rest : List Char) : Uri :=
  let authority := rest.takeWhile (!endsAuthority ·)
  let rest := rest.dropWhile (!endsAuthority ·)
  let path := pathOf rest
  { scheme := some (schemeText scheme)
    authority := some (String.ofList authority)
    path := String.ofList (if path.isEmpty then ['/'] else path)
    query := queryOf rest }

def ofString (text : String) : Uri :=
  match text.toList with
  | '/' :: rest => ofPath ('/' :: rest)
  | ['*'] => ⟨none, none, "*", none⟩
  | chars =>
    match splitScheme? chars with
    | some (scheme, rest) => absolute scheme rest
    | none => ⟨none, some text, "", none⟩

end Uri

end CloudAudit.Http
