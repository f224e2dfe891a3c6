import CloudAudit.Event
import CloudAudit.Http.Method
import CloudAudit.Json.Reader
import CloudAudit.Unknown

/-! The action of a request. An action configured for the last segment and the method comes first,
then one for the segment, then the rules of the methods. -/
namespace CloudAudit

inductive Action where
  | create
  | read
  | list
  | update
  | updateWith (verb : String)
  | delete
  | unknown
  | custom (action : String)
deriving DecidableEq, Repr

def Action.text : Action → String
  | create => "create"
  | read => "read"
  | list => "list"
  | update => "update"
  | updateWith verb => "update/" ++ verb
  | delete => "delete"
  | unknown => unknownText
  | custom action => action

namespace Action

def ofBody (body : Option ByteArray) : Logged Action :=
  match body with
  | none => pure .create
  | some body =>
    if body.isEmpty then pure .create
    else
      match Json.ofBytes? body with
      | some (.object ((verb, _) :: _)) => pure (.updateWith verb)
      | some _ => pure .create
      | none => do
        Logged.record .actionBodyNotJson
        pure .create

def ofVerb (map : AuditMap) (verb : Http.Verb) (segment : String) (body : Option ByteArray) :
    Logged Action :=
  match verb with
  | .post =>
    if segment = "action" then ofBody body
    else pure (if map.isPathKeyword segment then .create else .update)
  | .get => pure (if map.isPathKeyword segment then .list else .read)
  | .put | .patch => pure .update
  | .delete => pure .delete
  | .head => pure .read
  | .other => pure .unknown

/-- Of a map the rules look at one keyword, and only for two of the methods. -/
theorem ofVerb_congr {map other : AuditMap} {verb : Http.Verb} {segment : String}
    (keyword : verb = .get ∨ verb = .post ∧ segment ≠ "action" →
      other.isPathKeyword segment = map.isPathKeyword segment) (body : Option ByteArray) :
    ofVerb other verb segment body = ofVerb map verb segment body := by
  cases verb with
  | get => simp only [ofVerb, keyword (.inl rfl)]
  | post =>
    by_cases action : segment = "action"
    · rw [ofVerb, ofVerb, if_pos action, if_pos action]
    · simp only [ofVerb, action, keyword (.inr ⟨rfl, action⟩)]
  | put | patch | delete | head | other => rfl

end Action

def AuditMap.methodKey (segment : String) (method : Http.Method) : String :=
  segment ++ "/" ++ Text.lowercase method.token

theorem AuditMap.toList_methodKey (segment : String) (method : Http.Method) :
    (methodKey segment method).toList =
      segment.toList ++ '/' :: (Text.lowercase method.token).toList := by
  simp [methodKey]

def AuditMap.classify (map : AuditMap) (method : Http.Method) (path : String)
    (body : Option ByteArray) : Logged Action :=
  let segment := Path.lastSegment path
  match map.customAction? (methodKey segment method) with
  | some action => pure (.custom action)
  | none =>
    match map.customAction? segment with
    | some action => pure (.custom action)
    | none => Action.ofVerb map method.verb segment body

theorem AuditMap.classify_by_rules {map : AuditMap} {method : Http.Method} {path : String}
    (noMethod : map.customAction? (methodKey (Path.lastSegment path) method) = none)
    (noSegment : map.customAction? (Path.lastSegment path) = none) (body : Option ByteArray) :
    map.classify method path body =
      Action.ofVerb map method.verb (Path.lastSegment path) body := by
  simp only [classify, noMethod, noSegment]

theorem AuditMap.classify_congr {map other : AuditMap} {method : Http.Method} {path : String}
    (byMethod : other.customAction? (methodKey (Path.lastSegment path) method) =
      map.customAction? (methodKey (Path.lastSegment path) method))
    (bySegment : other.customAction? (Path.lastSegment path) =
      map.customAction? (Path.lastSegment path))
    (keyword : method.verb = .get ∨ method.verb = .post ∧ Path.lastSegment path ≠ "action" →
      other.isPathKeyword (Path.lastSegment path) = map.isPathKeyword (Path.lastSegment path))
    (body : Option ByteArray) :
    other.classify method path body = map.classify method path body := by
  simp only [classify, byMethod, bySegment, Action.ofVerb_congr keyword]

end CloudAudit
