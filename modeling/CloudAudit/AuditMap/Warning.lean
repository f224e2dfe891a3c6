import CloudAudit.AuditMap.Basic
import CloudAudit.Path
import CloudAudit.Text.Space

/-! Entries of an audit map that look like mistakes. -/
namespace CloudAudit

inductive Warning where
  | emptyPathKeyword (segment : String)
  | unknownCustomActionMethod (key method : String)
  | unmappedDefaultEndpointType (endpointType : String)
deriving DecidableEq, Repr

def Warning.message : Warning → String
  | emptyPathKeyword segment => "path keyword '" ++ segment ++ "' maps to an empty keyword"
  | unknownCustomActionMethod key method =>
    "custom action '" ++ key ++ "' names method '" ++ method ++ "', which is never classified"
  | unmappedDefaultEndpointType endpointType =>
    "default target endpoint type '" ++ endpointType ++ "' has no service_endpoints mapping"

namespace AuditMap

def knownMethods : List String := ["get", "post", "put", "patch", "delete", "head"]

def keyMethod? (key : String) : Option String :=
  if '/' ∈ key.toList then some (String.ofList (Path.lastPiece key.toList)) else none

def keywordWarning? (entry : String × String) : Option Warning :=
  if Text.isBlank entry.2 then some (.emptyPathKeyword entry.1) else none

def methodWarning? (entry : String × String) : Option Warning :=
  (keyMethod? entry.1).bind fun method =>
    if method ∈ knownMethods then none else some (.unknownCustomActionMethod entry.1 method)

def defaultWarning? (map : AuditMap) : Option Warning :=
  map.defaultEndpointType.bind fun endpointType =>
    if (map.serviceType? endpointType).isSome then none
    else some (.unmappedDefaultEndpointType endpointType)

/-- Keywords come first and the default last; tables are gone through in the order of their keys. -/
def warnings (map : AuditMap) : List Warning :=
  map.pathKeywords.entries.filterMap keywordWarning? ++
    map.customActions.entries.filterMap methodWarning? ++ map.defaultWarning?.toList

end AuditMap

end CloudAudit
