import CloudAudit.Audit

/-! Admission of requests to a service that is audited. The body of a POST request is read before
the request is passed on, because it may name the action; a body over the limit or one that cannot
be read is refused. Every request that is passed on is logged once. -/
namespace CloudAudit

namespace Http.Body.Failure

def status : Failure → Nat
  | tooLarge => 413
  | unreadable => 400

def text : Failure → String
  | tooLarge => "Request body too large"
  | unreadable => "Unable to read request body"

end Http.Body.Failure

structure Response where
  status : Nat
  text : String
deriving DecidableEq, Repr

def Http.Body.Failure.response (failure : Http.Body.Failure) : Response :=
  ⟨failure.status, failure.text⟩

structure Admitted where
  request : Http.Request
  action : Action
  target : Target
deriving DecidableEq

namespace Admission

def bodyLimit : Nat := 1024 * 1024

def recordOf (request : AuditRequest) (action : Action) (target : Target) : AuditRecord :=
  { method := request.method.token
    path := request.path
    action := action.text
    targetTypeUri := target.typeUri
    targetId := target.id }

def audit (map : AuditMap) (request : Http.Request) (body : Option ByteArray) :
    Logged Admitted := do
  let audited := AuditRequest.ofHttp request body
  let action ← map.action audited
  let target ← map.target audited
  Logged.record (.audited (recordOf audited action target))
  return ⟨request, action, target⟩

def receive (map : AuditMap) (request : Http.Request) :
    Logged (Except Http.Body.Failure Admitted) :=
  if request.method.verb = .post then
    match request.body.readUpTo bodyLimit with
    | .ok bytes => do
      return .ok (← audit map { request with body := .ofBytes bytes } (some bytes))
    | .error failure => do
      Logged.record (.bodyNotBuffered request.uri.path)
      return .error failure
  else do return .ok (← audit map request none)

def serve (map : AuditMap) (service : Admitted → Logged Response) (request : Http.Request) :
    Logged Response := do
  match ← receive map request with
  | .ok admitted => service admitted
  | .error failure => return failure.response

end Admission

end CloudAudit
