import CloudAudit.Action
import CloudAudit.Catalog.Reader
import CloudAudit.Http.Request
import CloudAudit.Target

/-! The audit of a request: what of it is looked at, the action it is and the target it acts on. -/
namespace CloudAudit

structure AuditRequest where
  method : Http.Method
  path : String
  hostUrl : String
  body : Option ByteArray := none
  serviceCatalog : Option String := none
deriving DecidableEq

namespace AuditRequest

def host? (request : Http.Request) : Option String :=
  ((Http.firstHeader? request.headers "host").bind Http.headerText?).or request.uri.authority

def hostUrlOf (request : Http.Request) : String :=
  match host? request with
  | some host => request.uri.scheme.getD "http" ++ "://" ++ host
  | none => ""

def ofHttp (request : Http.Request) (body : Option ByteArray) : AuditRequest :=
  { method := request.method
    path := request.uri.path
    hostUrl := hostUrlOf request
    body
    serviceCatalog :=
      (Http.firstHeader? request.headers "x-service-catalog").bind Http.headerText? }

def catalog (request : AuditRequest) : Except Catalog.Error (Option Catalog) :=
  match request.serviceCatalog with
  | none => .ok none
  | some text => some <$> Catalog.parse text

end AuditRequest

namespace AuditMap

def action (map : AuditMap) (request : AuditRequest) : Logged Action :=
  map.classify request.method request.path request.body

/-- A malformed catalog is logged and counts as none. -/
def target (map : AuditMap) (request : AuditRequest) : Logged Target :=
  match request.catalog with
  | .ok catalog => map.resolve request.path request.hostUrl catalog
  | .error _ => do
    Logged.record .catalogMalformed
    map.resolve request.path request.hostUrl none

section

variable (map : AuditMap) {request : AuditRequest} {text : String}

theorem target_of_absent (noCatalog : request.serviceCatalog = none) :
    map.target request = ⟨⟨"unknown", "unknown", "unknown", []⟩, [.catalogMissing]⟩ := by
  rw [target, AuditRequest.catalog, noCatalog]
  rfl

theorem target_of_unread {error : Catalog.Error} (given : request.serviceCatalog = some text)
    (malformed : Catalog.parse text = .error error) :
    map.target request =
      ⟨⟨"unknown", "unknown", "unknown", []⟩, [.catalogMalformed, .catalogMissing]⟩ := by
  have none : request.catalog = .error error := by
    rw [AuditRequest.catalog, given]
    exact congrArg (some <$> ·) malformed
  rw [target, none]
  rfl

theorem target_of_read {catalog : Catalog} (given : request.serviceCatalog = some text)
    (parsed : Catalog.parse text = .ok catalog) :
    map.target request = map.resolve request.path request.hostUrl (some catalog) := by
  have found : request.catalog = .ok (some catalog) := by
    rw [AuditRequest.catalog, given]
    exact congrArg (some <$> ·) parsed
  rw [target, found]

end

end AuditMap

end CloudAudit
