import CloudAudit.Admission
import CloudAudit.Proofs.Target.Events
import Mathlib

/-! What admission makes of a request, whatever service stands behind it. A body counts by its
bytes and by whether it breaks off, not by its chunks; a request that is passed on is the request
that came, with the context that its whole body gives and one audit record as the last event. -/
namespace CloudAudit

namespace Http

namespace Body

def size (body : Body) : Nat := (body.chunks.map ByteArray.size).sum

theorem foldl_append (taken : ByteArray) (chunks : List ByteArray) :
    chunks.foldl (· ++ ·) taken = taken ++ join chunks := by
  induction chunks generalizing taken with
  | nil => simp [join]
  | cons chunk rest ih =>
    rw [join, List.foldl_cons, List.foldl_cons, ih, ih, ByteArray.empty_append,
      ByteArray.append_assoc]

theorem join_cons (chunk : ByteArray) (rest : List ByteArray) :
    join (chunk :: rest) = chunk ++ join rest := by
  rw [join, List.foldl_cons, foldl_append, ByteArray.empty_append]

theorem size_join (chunks : List ByteArray) :
    (join chunks).size = (chunks.map ByteArray.size).sum := by
  induction chunks with
  | nil => rfl
  | cons chunk rest ih => rw [join_cons, ByteArray.size_append, ih, List.map_cons, List.sum_cons]

theorem gather_eq (breaks : Bool) (left : Nat) (taken : ByteArray) (chunks : List ByteArray) :
    gather breaks left taken chunks =
      if left < (chunks.map ByteArray.size).sum then .error .tooLarge
      else if breaks then .error .unreadable else .ok (taken ++ join chunks) := by
  -- what is left and what is still to come both shrink by the chunk that is taken
  induction chunks generalizing left taken with
  | nil => simp [gather, join]
  | cons chunk rest ih =>
    rw [gather, ih, List.map_cons, List.sum_cons, join_cons, ByteArray.append_assoc]
    by_cases fits : chunk.size ≤ left
    · have same : left - chunk.size < (rest.map ByteArray.size).sum ↔
          left < chunk.size + (rest.map ByteArray.size).sum := by omega
      simp only [if_neg (Nat.not_lt.2 fits), same]
    · rw [if_pos (by omega), if_pos (by omega)]

theorem readUpTo_eq (limit : Nat) (body : Body) :
    body.readUpTo limit =
      if limit < body.size then .error .tooLarge
      else if body.breaks then .error .unreadable else .ok (join body.chunks) := by
  rw [readUpTo, gather_eq, ByteArray.empty_append, size]

theorem size_eq_of_join {body other : Body} (same : join body.chunks = join other.chunks) :
    body.size = other.size := by
  rw [size, size, ← size_join, ← size_join, same]

theorem bytes?_ofBytes (bytes : ByteArray) : (ofBytes bytes).bytes? = some bytes := by
  simp [bytes?, ofBytes, join]

end Body

end Http

namespace Admission

open Http (Request)

def failure? (request : Request) : Option Http.Body.Failure :=
  if request.method.token = "POST" then
    if bodyLimit < request.body.size then some .tooLarge
    else if request.body.breaks then some .unreadable else none
  else none

theorem failure?_eq_tooLarge_iff (request : Request) :
    failure? request = some .tooLarge ↔
      request.method.token = "POST" ∧ bodyLimit < request.body.size := by
  grind [failure?]

theorem failure?_eq_unreadable_iff (request : Request) :
    failure? request = some .unreadable ↔
      request.method.token = "POST" ∧ request.body.size ≤ bodyLimit ∧
        request.body.breaks = true := by
  grind [failure?]

theorem failure?_eq_none_iff (request : Request) :
    failure? request = none ↔
      ¬(request.method.token = "POST" ∧
        (bodyLimit < request.body.size ∨ request.body.breaks = true)) := by
  grind [failure?]

def buffered? (request : Request) : Option ByteArray :=
  if request.method.token = "POST" then some (Http.Body.join request.body.chunks) else none

def forwarded (request : Request) : Request :=
  (buffered? request).elim request fun bytes => { request with body := .ofBytes bytes }

theorem receive_eq (map : AuditMap) (request : Request) :
    receive map request =
      match failure? request with
      | some failure => ⟨.error failure, [.bodyNotBuffered request.uri.path]⟩
      | none =>
        ⟨.ok (audit map (forwarded request) (buffered? request)).value,
          (audit map (forwarded request) (buffered? request)).log⟩ := by
  have kept : ∀ audited : Logged Admitted,
      (do return .ok (← audited) : Logged (Except Http.Body.Failure Admitted)) =
        ⟨.ok audited.value, audited.log⟩ := by
    intro audited
    exact congrArg (Logged.mk _) (List.append_nil _)
  by_cases post : request.method.token = "POST"
  · have seen : buffered? request = some (Http.Body.join request.body.chunks) := if_pos post
    rw [receive, if_pos ((Http.Method.verb_eq_post_iff _).2 post), Http.Body.readUpTo_eq, failure?,
      if_pos post]
    by_cases large : bodyLimit < request.body.size
    · rw [if_pos large, if_pos large]
      rfl
    · by_cases breaks : request.body.breaks = true
      · rw [if_neg large, if_neg large, if_pos breaks, if_pos breaks]
        rfl
      · rw [if_neg large, if_neg large, if_neg breaks, if_neg breaks, forwarded, seen]
        exact kept _
  · have seen : buffered? request = none := if_neg post
    rw [receive, if_neg (mt (Http.Method.verb_eq_post_iff _).1 post), failure?, if_neg post,
      forwarded, seen]
    exact kept _

theorem serve_of_failure (map : AuditMap) {request : Request} {failure : Http.Body.Failure}
    (found : failure? request = some failure) (service : Admitted → Logged Response) :
    serve map service request = ⟨failure.response, [.bodyNotBuffered request.uri.path]⟩ := by
  rw [serve, receive_eq, found]
  rfl

theorem serve_of_no_failure (map : AuditMap) {request : Request} (none : failure? request = none)
    (service : Admitted → Logged Response) :
    let audited := audit map (forwarded request) (buffered? request)
    serve map service request =
      ⟨(service audited.value).value, audited.log ++ (service audited.value).log⟩ := by
  intro audited
  rw [serve, receive_eq, none]
  rfl

/-- Whatever the service, it is not called; the answer is given and one warning logged instead. -/
def Refuses (map : AuditMap) (request : Request) (answer : Response) : Prop :=
  ∃ event : Event, event.level = .warn ∧ event.message ≠ "audit_request" ∧
    ∀ service, serve map service request = ⟨answer, [event]⟩

/-- Whatever the service, it is called once, with what is admitted and after the given events. -/
def PassesOn (map : AuditMap) (request : Request) (admitted : Admitted) (log : List Event) : Prop :=
  ∀ service, serve map service request =
    ⟨(service admitted).value, log ++ (service admitted).log⟩

theorem refuses_of_failure (map : AuditMap) {request : Request} {failure : Http.Body.Failure}
    (found : failure? request = some failure) : Refuses map request failure.response := by
  refine ⟨.bodyNotBuffered request.uri.path, rfl, ?_, serve_of_failure map found⟩
  show "Unable to buffer request body" ≠ "audit_request"
  decide

theorem passesOn_of_no_failure (map : AuditMap) {request : Request}
    (none : failure? request = none) :
    PassesOn map request (audit map (forwarded request) (buffered? request)).value
      (audit map (forwarded request) (buffered? request)).log :=
  serve_of_no_failure map none

theorem status_iff (map : AuditMap) (request : Request) (failure : Http.Body.Failure) :
    (∀ service, (serve map service request).value.status = failure.status) ↔
      failure? request = some failure := by
  constructor
  · intro answered
    cases found : failure? request with
    | none =>
      -- a service that answers otherwise is heard
      have heard := answered fun _ => pure ⟨200, "handled"⟩
      rw [serve_of_no_failure map found] at heard
      cases failure <;> cases heard
    | some other =>
      have same := answered fun _ => pure ⟨200, "handled"⟩
      rw [serve_of_failure map found] at same
      cases failure <;> cases other <;> first | rfl | cases same
  · intro found service
    rw [serve_of_failure map found]
    rfl

theorem ofHttp_forwarded (request : Request) (body : Option ByteArray) :
    AuditRequest.ofHttp (forwarded request) body = AuditRequest.ofHttp request body := by
  rw [forwarded]
  cases buffered? request <;> rfl

/-- Requests that are read alike and look alike to the audit are answered alike. -/
theorem serve_of_alike (map : AuditMap) {request other : Request}
    (sameFailure : failure? other = failure? request)
    (sameBody : buffered? other = buffered? request)
    (alike : ∀ body, AuditRequest.ofHttp other body = AuditRequest.ofHttp request body)
    (told : Action → Target → Logged Response) :
    serve map (fun admitted => told admitted.action admitted.target) other =
      serve map (fun admitted => told admitted.action admitted.target) request := by
  cases found : failure? request with
  | some failure =>
    have samePath : other.uri.path = request.uri.path := congrArg AuditRequest.path (alike none)
    rw [serve_of_failure map found, serve_of_failure map (sameFailure.trans found), samePath]
  | none =>
    rw [serve_of_no_failure map found, serve_of_no_failure map (sameFailure.trans found), sameBody]
    simp only [audit, ofHttp_forwarded, alike]
    rfl

theorem serve_congr (map : AuditMap) {request : Request} {other : Http.Body}
    (sameBytes : Http.Body.join other.chunks = Http.Body.join request.body.chunks)
    (sameEnd : other.breaks = request.body.breaks) (told : Action → Target → Logged Response) :
    serve map (fun admitted => told admitted.action admitted.target)
        { request with body := other } =
      serve map (fun admitted => told admitted.action admitted.target) request := by
  apply serve_of_alike
  · simp only [failure?, sameEnd, Http.Body.size_eq_of_join sameBytes]
  · simp only [buffered?, sameBytes]
  · exact fun _ => rfl

/-- A request is refused by the number of its bytes and by a failure after them, and passed on
otherwise; how its bytes are cut into chunks shows in no answer, context or event. -/
theorem serve_by_bytes (map : AuditMap) (request : Request) :
    let post := request.method.token = "POST"
    let total := (request.body.chunks.map ByteArray.size).sum
    let fails := request.body.breaks = true
    ((∀ service, (serve map service request).value.status = 413) ↔ post ∧ 1048576 < total) ∧
      ((∀ service, (serve map service request).value.status = 400) ↔
        post ∧ total ≤ 1048576 ∧ fails) ∧
      (post ∧ (1048576 < total ∨ fails) → ∃ answer, Refuses map request answer) ∧
      (¬(post ∧ (1048576 < total ∨ fails)) → ∃ admitted log, PassesOn map request admitted log) ∧
      ∀ other : Http.Body, Http.Body.join other.chunks = Http.Body.join request.body.chunks →
        other.breaks = request.body.breaks → ∀ told : Action → Target → Logged Response,
          serve map (fun admitted => told admitted.action admitted.target)
              { request with body := other } =
            serve map (fun admitted => told admitted.action admitted.target) request := by
  intro post total fails
  have accepted : failure? request = none ↔ ¬(post ∧ (1048576 < total ∨ fails)) :=
    failure?_eq_none_iff request
  refine ⟨?_, ?_, ?_, ?_, ?_⟩
  · exact (status_iff map request .tooLarge).trans (failure?_eq_tooLarge_iff request)
  · exact (status_iff map request .unreadable).trans (failure?_eq_unreadable_iff request)
  · intro refused
    obtain ⟨failure, found⟩ := Option.ne_none_iff_exists'.1 (mt accepted.1 (not_not_intro refused))
    exact ⟨failure.response, refuses_of_failure map found⟩
  · intro passed
    exact ⟨_, _, passesOn_of_no_failure map (accepted.2 passed)⟩
  · intro other sameBytes sameEnd told
    exact serve_congr map sameBytes sameEnd told

theorem serve_by_bytes_of_reboot :
    let request (body : Http.Body) : Request :=
      ⟨⟨"POST", by decide⟩, .ofString "/servers/1/action", [], body⟩
    let cut : Http.Body := ⟨["\x7b\"re".toUTF8, .empty, "boot\": 1\x7d".toUTF8], false⟩
    let whole : Http.Body := ⟨["\x7b\"reboot\": 1\x7d".toUTF8], false⟩
    let broken : Http.Body := ⟨cut.chunks, true⟩
    let flood : Http.Body := ⟨List.replicate 1048577 ⟨#[0]⟩, true⟩
    (∀ service, (serve .empty service (request flood)).value.status = 413) ∧
      (∃ answer, Refuses .empty (request broken) answer) ∧
      (∃ admitted log, PassesOn .empty (request cut) admitted log) ∧
      Http.Body.join whole.chunks = Http.Body.join cut.chunks ∧
      ∀ told : Action → Target → Logged Response,
        serve .empty (fun admitted => told admitted.action admitted.target) (request whole) =
          serve .empty (fun admitted => told admitted.action admitted.target) (request cut) := by
  intro request cut whole broken flood
  have beyond : 1048576 < (flood.chunks.map ByteArray.size).sum := by
    rw [List.map_replicate, List.sum_replicate_nat]
    decide
  have small : ¬1048576 < (cut.chunks.map ByteArray.size).sum := by decide +kernel
  have same : Http.Body.join whole.chunks = Http.Body.join cut.chunks := by decide +kernel
  have passes : ¬((request cut).method.token = "POST" ∧
      (1048576 < ((request cut).body.chunks.map ByteArray.size).sum ∨ cut.breaks = true)) := by
    rintro ⟨_, large | fails⟩
    · exact small large
    · cases fails
  exact ⟨(serve_by_bytes .empty (request flood)).1.2 ⟨rfl, beyond⟩,
    (serve_by_bytes .empty (request broken)).2.2.1 ⟨rfl, .inr rfl⟩,
    (serve_by_bytes .empty (request cut)).2.2.2.1 passes, same,
    (serve_by_bytes .empty (request cut)).2.2.2.2 whole same rfl⟩

end Admission

namespace AuditMap

theorem classify_ignores_body (map : AuditMap) {method : Http.Method} (other : method.verb ≠ .post)
    (path : String) (body body' : Option ByteArray) :
    map.classify method path body = map.classify method path body' := by
  have rule : ∀ segment, Action.ofVerb map method.verb segment body =
      Action.ofVerb map method.verb segment body' := by
    intro segment
    cases verb : method.verb <;> first | rfl | exact absurd verb other
  simp only [classify, rule]

theorem classify_log (map : AuditMap) (method : Http.Method) (path : String)
    (body : Option ByteArray) :
    ∀ event ∈ (map.classify method path body).log, event = .actionBodyNotJson := by
  have ofBody : ∀ event ∈ (Action.ofBody body).log, event = .actionBodyNotJson := by
    unfold Action.ofBody
    split
    · simp [pure]
    · split
      · simp [pure]
      · split <;> simp [pure, bind, Logged.andThen, Logged.record]
  have ofVerb : ∀ verb segment, ∀ event ∈ (Action.ofVerb map verb segment body).log,
      event = .actionBodyNotJson := by
    intro verb segment
    unfold Action.ofVerb
    split
    case h_1 =>
      split
      · exact ofBody
      · simp [pure]
    all_goals simp [pure]
  unfold classify
  dsimp only
  split
  · simp [pure]
  · split
    · simp [pure]
    · exact ofVerb _ _

theorem target_log (map : AuditMap) (request : AuditRequest) :
    ∀ event ∈ (map.target request).log,
      event = .catalogMalformed ∨ event = .catalogMissing ∨
        (∃ service, event = .matchedByHost service) ∨
        ∃ service, event = .matchedByDefaultType service := by
  intro event raised
  have how : map.TargetEvents request (map.target request).log := target_log_iff.1 rfl
  generalize (map.target request).log = events at how raised
  cases how with
  | absent => exact .inr (.inl (List.mem_singleton.1 raised))
  | unread =>
    rcases List.mem_pair.1 raised with malformed | missing
    · exact .inl malformed
    · exact .inr (.inl missing)
  | read _ _ search =>
    cases search with
    | byHost => exact .inr (.inr (.inl ⟨_, List.mem_singleton.1 raised⟩))
    | byDefaultType => exact .inr (.inr (.inr ⟨_, List.mem_singleton.1 raised⟩))
    | nothing => cases raised

end AuditMap

namespace Admission

open Http (Request)

/-- Services can tell what they are called with, so there is one thing that is passed on. -/
theorem PassesOn.unique {map : AuditMap} {request : Request} {admitted other : Admitted}
    {log events : List Event} (passes : PassesOn map request admitted log)
    (again : PassesOn map request other events) : admitted = other ∧ log = events := by
  constructor
  · have told := (passes fun found => pure ⟨if found = admitted then 200 else 404, ""⟩).symm.trans
      (again fun found => pure ⟨if found = admitted then 200 else 404, ""⟩)
    by_contra differs
    simp [pure, Ne.symm differs] at told
  · have silent := (passes fun _ => pure ⟨200, ""⟩).symm.trans (again fun _ => pure ⟨200, ""⟩)
    simpa [pure] using congrArg Logged.log silent

theorem PassesOn.no_failure {map : AuditMap} {request : Request} {admitted : Admitted}
    {log : List Event} (passes : PassesOn map request admitted log) : failure? request = none := by
  by_contra refused
  obtain ⟨failure, found⟩ := Option.ne_none_iff_exists'.1 refused
  have silent := (passes fun _ => pure ⟨200, ""⟩).symm.trans (serve_of_failure map found _)
  have status : 200 = failure.status := congrArg (·.value.status) silent
  cases failure <;> cases status

theorem forwarded_parts (request : Request) :
    (forwarded request).method = request.method ∧ (forwarded request).uri = request.uri ∧
      (forwarded request).headers = request.headers := by
  rw [forwarded]
  cases buffered? request <;> exact ⟨rfl, rfl, rfl⟩

theorem join_of_bytes? {body : Http.Body} {bytes : ByteArray}
    (readable : body.bytes? = some bytes) :
    Http.Body.join body.chunks = bytes := by
  rw [Http.Body.bytes?] at readable
  split at readable
  · cases readable
  · exact Option.some.inj readable

theorem forwarded_bytes {request : Request} {bytes : ByteArray}
    (readable : request.body.bytes? = some bytes) :
    (forwarded request).body.bytes? = some bytes := by
  rw [forwarded, buffered?]
  split
  · rw [join_of_bytes? readable]
    exact Http.Body.bytes?_ofBytes bytes
  · exact readable

/-- Without its body a request that is no POST is classified as with it. -/
theorem action_buffered (map : AuditMap) {request : Request} {bytes : ByteArray}
    (readable : request.body.bytes? = some bytes) :
    map.action (AuditRequest.ofHttp request (buffered? request)) =
      map.action (AuditRequest.ofHttp request (some bytes)) := by
  by_cases post : request.method.token = "POST"
  · rw [buffered?, if_pos post, join_of_bytes? readable]
  · exact map.classify_ignores_body (mt (Http.Method.verb_eq_post_iff _).1 post) _ _ _

theorem audit_eq (map : AuditMap) (request : Request) (body : Option ByteArray) :
    let audited := AuditRequest.ofHttp request body
    let action := map.action audited
    let target := map.target audited
    audit map request body =
      ⟨⟨request, action.value, target.value⟩,
        (action.log ++ target.log) ++ [.audited (recordOf audited action.value target.value)]⟩ := by
  intro audited action target
  simp only [List.append_assoc]
  rfl

theorem no_audit_before (map : AuditMap) (audited : AuditRequest) :
    ∀ event ∈ (map.action audited).log ++ (map.target audited).log,
      event.message ≠ "audit_request" := by
  intro event member
  rcases List.mem_append.1 member with first | second
  · rw [map.classify_log _ _ _ event first]
    decide
  · rcases map.target_log audited event second with rfl | rfl | ⟨service, rfl⟩ | ⟨service, rfl⟩
    · decide
    · show Event.message .catalogMissing ≠ _
      decide
    · show "Target matched by request host" ≠ "audit_request"
      decide
    · show "Target matched by default endpoint type" ≠ "audit_request"
      decide

/-- A service is called with the request that came, byte for byte, and with the context of the
whole of it. The one audit record comes last and says what the service is told. -/
theorem serve_transparent (map : AuditMap) {request : Request} {admitted : Admitted}
    {log : List Event} {bytes : ByteArray} (passes : PassesOn map request admitted log)
    (readable : request.body.bytes? = some bytes) :
    let audited := AuditRequest.ofHttp request (some bytes)
    (admitted.request.method = request.method ∧ admitted.request.uri = request.uri ∧
        admitted.request.headers = request.headers ∧
        admitted.request.body.bytes? = some bytes) ∧
      admitted.action = (map.action audited).value ∧
      admitted.target = (map.target audited).value ∧
      ∃ before last, log = before ++ [last] ∧
        (∀ event ∈ before, event.message ≠ "audit_request") ∧
        last.message = "audit_request" ∧ last.level = .info ∧
        last.fields = [("method", request.method.token), ("path", request.uri.path),
          ("action", admitted.action.text), ("target_type_uri", admitted.target.typeUri),
          ("target_id", admitted.target.id)] := by
  intro audited
  obtain ⟨rfl, rfl⟩ := passes.unique (passesOn_of_no_failure map passes.no_failure)
  have sameAction := action_buffered map readable
  have sameTarget : map.target (AuditRequest.ofHttp request (buffered? request)) =
      map.target audited := rfl
  obtain ⟨sameMethod, sameUri, sameHeaders⟩ := forwarded_parts request
  rw [audit_eq, ofHttp_forwarded]
  refine ⟨⟨sameMethod, sameUri, sameHeaders, forwarded_bytes readable⟩,
    congrArg Logged.value sameAction, congrArg Logged.value sameTarget, _, _, rfl,
    no_audit_before map _, rfl, rfl, rfl⟩

theorem serve_transparent_of_patch :
    let map := AuditMap.empty.addPathKeyword "servers" "server"
    let request : Request := ⟨⟨"PATCH", by decide⟩,
      .ofString "https://nova:8774/servers/7?force", [],
      ⟨["a".toUTF8, .empty, "b".toUTF8], false⟩⟩
    ∃ admitted log, PassesOn map request admitted log ∧
      request.body.bytes? = some "ab".toUTF8 ∧
      admitted.request.body.bytes? = some "ab".toUTF8 ∧ admitted.action = .update ∧
      ∃ before last, log = before ++ [last] ∧ last.fields = [("method", "PATCH"),
        ("path", "/servers/7"), ("action", "update"), ("target_type_uri", "unknown"),
        ("target_id", "unknown")] := by
  intro map request
  have accepted : failure? request = none := by decide
  have readable : request.body.bytes? = some "ab".toUTF8 := by decide +kernel
  have passes := passesOn_of_no_failure map accepted
  obtain ⟨⟨_, _, _, bytes⟩, action, target, before, last, ends, _, _, _, fields⟩ :=
    serve_transparent map passes readable
  refine ⟨_, _, passes, readable, bytes, ?_, before, last, ends, ?_⟩
  · exact action.trans (by decide +kernel)
  · rw [fields, action, target]
    decide +kernel

end Admission

end CloudAudit
