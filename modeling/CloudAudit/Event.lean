import CloudAudit.AuditMap.Warning

/-! Events that operations log, and answers that come with a log. -/
namespace CloudAudit

inductive Level where
  | debug
  | info
  | warn
deriving DecidableEq, Repr

def Level.name : Level → String
  | debug => "DEBUG"
  | info => "INFO"
  | warn => "WARN"

structure AuditRecord where
  method : String
  path : String
  action : String
  targetTypeUri : String
  targetId : String
deriving DecidableEq, Repr

inductive Event where
  | mapFileMissing
  | unknownSection (name : String)
  | mapWarning (warning : Warning)
  | mapLoaded (pathKeywords customActions serviceEndpoints : Nat)
  | actionBodyNotJson
  | catalogMalformed
  | catalogMissing
  | matchedByHost (service : String)
  | matchedByDefaultType (service : String)
  | audited (record : AuditRecord)
  | bodyNotBuffered (path : String)
deriving DecidableEq, Repr

namespace Event

def level : Event → Level
  | mapWarning _ | catalogMalformed | catalogMissing | bodyNotBuffered _ => .warn
  | mapLoaded .. | audited _ => .info
  | mapFileMissing | unknownSection _ | actionBodyNotJson | matchedByHost _
  | matchedByDefaultType _ => .debug

def message : Event → String
  | mapFileMissing => "Audit map file not found, using empty map"
  | unknownSection _ => "Ignoring unknown audit map section"
  | mapWarning _ => "Audit map validation warning"
  | mapLoaded .. => "Audit map loaded"
  | actionBodyNotJson => "Action body is not valid JSON, classifying as create"
  | catalogMalformed => "Ignoring malformed service catalog"
  | catalogMissing =>
    "Unable to discover target information because service catalog is missing. Either the " ++
    "incoming request does not contain an auth token or auth token does not contain a service " ++
    "catalog. For the latter, please make sure the \"include_service_catalog\" property in " ++
    "auth_token middleware is set to \"True\""
  | matchedByHost _ => "Target matched by request host"
  | matchedByDefaultType _ => "Target matched by default endpoint type"
  | audited _ => "audit_request"
  | bodyNotBuffered _ => "Unable to buffer request body"

def fields : Event → List (String × String)
  | unknownSection name => [("section", name)]
  | mapWarning warning => [("warning", warning.message)]
  | mapLoaded pathKeywords customActions serviceEndpoints =>
    [("path_keywords", toString pathKeywords), ("custom_actions", toString customActions),
      ("service_endpoints", toString serviceEndpoints)]
  | matchedByHost service | matchedByDefaultType service => [("service", service)]
  | audited record =>
    [("method", record.method), ("path", record.path), ("action", record.action),
      ("target_type_uri", record.targetTypeUri), ("target_id", record.targetId)]
  | bodyNotBuffered path => [("path", path)]
  | mapFileMissing | actionBodyNotJson | catalogMalformed | catalogMissing => []

end Event

structure Logged (α : Type) where
  value : α
  log : List Event
deriving DecidableEq, Repr

namespace Logged

def andThen {α β : Type} (first : Logged α) (next : α → Logged β) : Logged β :=
  let second := next first.value
  ⟨second.value, first.log ++ second.log⟩

instance : Monad Logged where
  pure value := ⟨value, []⟩
  bind := andThen

def record (event : Event) : Logged Unit := ⟨(), [event]⟩

end Logged

end CloudAudit
