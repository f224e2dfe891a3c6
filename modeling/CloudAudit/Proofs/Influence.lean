import CloudAudit.Proofs.Admission
import CloudAudit.Proofs.Http.Header

/-! What of a request has an influence on its audit: the method, the URI without its query, the
body, and the first headers that name the host and the catalog. -/
namespace CloudAudit

namespace Http

/-- The first catalog headers are the same, or the one of the first list is not a text and the
second list has none. -/
inductive SameCatalog (headers others : List Header) : Prop
  | first (same : SameFirst headers others "x-service-catalog")
  | hidden {value : ByteArray} (first : IsFirstHeader headers "x-service-catalog" value)
    (hidden : ∃ byte ∈ value.data.toList, byte ≠ 0x09 ∧ ¬ (0x20 ≤ byte ∧ byte ≤ 0x7E))
    (absent : ∀ header ∈ others, header.name.toLower ≠ "x-service-catalog")

structure Request.SameDeclared (request other : Request) : Prop where
  method : other.method = request.method
  scheme : other.uri.scheme = request.uri.scheme
  authority : other.uri.authority = request.uri.authority
  path : other.uri.path = request.uri.path
  body : other.body = request.body
  host : SameFirst request.headers other.headers "host"
  catalog : SameCatalog request.headers other.headers

theorem SameCatalog.readable {headers others : List Header} (same : SameCatalog headers others) :
    (firstHeader? others "x-service-catalog").bind headerText? =
      (firstHeader? headers "x-service-catalog").bind headerText? := by
  cases same with
  | first same => rw [sameFirst_iff.1 same]
  | hidden first hidden absent =>
    rw [firstHeader?_eq_none_iff.2 absent, firstHeader?_eq_some_iff.2 first, Option.bind_some,
      headerText?_of_hidden hidden]
    rfl

end Http

namespace Admission

open Http (Request)

variable {request other : Request}

theorem ofHttp_of_declared (same : request.SameDeclared other) (body : Option ByteArray) :
    AuditRequest.ofHttp other body = AuditRequest.ofHttp request body := by
  have sameHost : AuditRequest.host? other = AuditRequest.host? request := by
    rw [AuditRequest.host?, AuditRequest.host?, Http.sameFirst_iff.1 same.host, same.authority]
  have sameUrl : AuditRequest.hostUrlOf other = AuditRequest.hostUrlOf request := by
    rw [AuditRequest.hostUrlOf, AuditRequest.hostUrlOf, sameHost, same.scheme]
  rw [AuditRequest.ofHttp, AuditRequest.ofHttp, same.method, same.path, sameUrl,
    same.catalog.readable]

theorem failure?_of_declared (same : request.SameDeclared other) :
    failure? other = failure? request := by
  rw [failure?, failure?, same.method, same.body]

theorem buffered?_of_declared (same : request.SameDeclared other) :
    buffered? other = buffered? request := by
  rw [buffered?, buffered?, same.method, same.body]

/-- Whatever the service, both requests are refused with one answer and one event, or it is called
for both with the same context and after the same events. -/
inductive TreatedAlike (map : AuditMap) (request other : Request) : Prop
  | refused {answer : Response} {event : Event}
    (first : ∀ service, serve map service request = ⟨answer, [event]⟩)
    (second : ∀ service, serve map service other = ⟨answer, [event]⟩)
  | passedOn {action : Action} {target : Target} {log : List Event}
    (first : PassesOn map request ⟨forwarded request, action, target⟩ log)
    (second : PassesOn map other ⟨forwarded other, action, target⟩ log)

theorem treatedAlike_of_declared (map : AuditMap) (same : request.SameDeclared other) :
    TreatedAlike map request other := by
  cases found : failure? request with
  | some failure =>
    have foundOther := (failure?_of_declared same).trans found
    refine .refused (serve_of_failure map found) fun service => ?_
    rw [serve_of_failure map foundOther, same.path]
  | none =>
    have first := passesOn_of_no_failure map found
    have second := passesOn_of_no_failure map ((failure?_of_declared same).trans found)
    rw [audit_eq, ofHttp_forwarded] at first second
    rw [ofHttp_of_declared same, buffered?_of_declared same] at second
    exact .passedOn first second

/-- Nothing of a request has an influence but what is declared about it, and a catalog that is not
a text has no more influence than one that is absent. -/
theorem serve_reads_declared (map : AuditMap) (same : request.SameDeclared other) :
    TreatedAlike map request other ∧
      ∀ told : Action → Target → Logged Response,
        serve map (fun admitted => told admitted.action admitted.target) other =
          serve map (fun admitted => told admitted.action admitted.target) request := by
  constructor
  · exact treatedAlike_of_declared map same
  · intro told
    apply serve_of_alike
    · exact failure?_of_declared same
    · exact buffered?_of_declared same
    · exact ofHttp_of_declared same

theorem serve_reads_declared_of_reordered :
    let reboot (query : String) (headers : List Http.Header) : Request :=
      ⟨⟨"POST", by decide⟩, .ofString ("https://nova/servers/7/action?" ++ query), headers,
        ⟨["\x7b\"reboot\": 1\x7d".toUTF8], false⟩⟩
    let host : Http.Header := ⟨"Host", "nova:8774".toUTF8⟩
    let catalog : Http.Header := ⟨"X-Service-Catalog", "[]".toUTF8⟩
    let request := reboot "force" [host, ⟨"Accept", "text/html".toUTF8⟩, catalog]
    let other := reboot "" [⟨"X-SERVICE-CATALOG", catalog.value⟩, ⟨"hOST", host.value⟩,
      ⟨"Host", "glance".toUTF8⟩, ⟨"X-Service-Catalog", .empty⟩]
    let unreadable := reboot "" [⟨"X-Service-Catalog", ⟨#[0x5B, 0xE9, 0x5D]⟩⟩, catalog, host]
    let bare := reboot "force" [host]
    request.SameDeclared other ∧ unreadable.SameDeclared bare ∧
      ∀ map, TreatedAlike map request other ∧
        ∀ told : Action → Target → Logged Response,
          serve map (fun admitted => told admitted.action admitted.target) bare =
            serve map (fun admitted => told admitted.action admitted.target) unreadable := by
  intro reboot host catalog request other unreadable bare
  have agreed : request.SameDeclared other :=
    { method := rfl
      scheme := by decide +kernel
      authority := by decide +kernel
      path := by decide +kernel
      body := rfl
      host := Http.sameFirst_iff.2 (by decide +kernel)
      catalog := .first (Http.sameFirst_iff.2 (by decide +kernel)) }
  have first : Http.IsFirstHeader unreadable.headers "x-service-catalog" ⟨#[0x5B, 0xE9, 0x5D]⟩ :=
    Http.firstHeader?_eq_some_iff.1 (by decide +kernel)
  have silenced : unreadable.SameDeclared bare :=
    { method := rfl
      scheme := by decide +kernel
      authority := by decide +kernel
      path := by decide +kernel
      body := rfl
      host := Http.sameFirst_iff.2 (by decide +kernel)
      catalog := .hidden first (by decide) (Http.firstHeader?_eq_none_iff.1 (by decide +kernel)) }
  exact ⟨agreed, silenced, fun map =>
    ⟨(serve_reads_declared map agreed).1, (serve_reads_declared map silenced).2⟩⟩

end Admission

end CloudAudit
