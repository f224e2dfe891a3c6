import CloudAudit.Table
import CloudAudit.Text.Lowercase

/-! The audit map says how requests are named in audit records. The keys of its tables are
lowercased when they are added; looking one up takes the text as it is. -/
namespace CloudAudit

structure AuditMap where
  /-- From a path segment to the keyword of one instance of it. -/
  pathKeywords : Table := .empty
  /-- From a path segment, or a segment, a slash and a method, to an action. -/
  customActions : Table := .empty
  /-- From a service type of the catalog to the service type of the taxonomy. -/
  serviceEndpoints : Table := .empty
  /-- The service type of the catalog for requests whose host is in no entry. -/
  defaultEndpointType : Option String := none
deriving DecidableEq

namespace AuditMap

def empty : AuditMap := {}

def addPathKeyword (map : AuditMap) (segment keyword : String) : AuditMap :=
  { map with pathKeywords := map.pathKeywords.insert (Text.lowercase segment) keyword }

def addCustomAction (map : AuditMap) (key action : String) : AuditMap :=
  { map with customActions := map.customActions.insert (Text.lowercase key) action }

def addServiceEndpoint (map : AuditMap) (catalogType taxonomyType : String) : AuditMap :=
  { map with
    serviceEndpoints := map.serviceEndpoints.insert (Text.lowercase catalogType) taxonomyType }

def setDefaultEndpointType (map : AuditMap) (endpointType : String) : AuditMap :=
  { map with defaultEndpointType := some endpointType }

def pathKeyword? (map : AuditMap) (segment : String) : Option String :=
  map.pathKeywords.get? segment

def isPathKeyword (map : AuditMap) (segment : String) : Bool := map.pathKeywords.contains segment

def customAction? (map : AuditMap) (key : String) : Option String := map.customActions.get? key

def serviceType? (map : AuditMap) (catalogType : String) : Option String :=
  map.serviceEndpoints.get? catalogType

def isEmpty (map : AuditMap) : Bool :=
  map.pathKeywords.isEmpty && map.customActions.isEmpty && map.serviceEndpoints.isEmpty &&
    map.defaultEndpointType.isNone

end AuditMap

end CloudAudit
