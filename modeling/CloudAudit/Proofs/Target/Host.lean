import CloudAudit.Audit
import CloudAudit.Proofs.Http.Header
import CloudAudit.Proofs.NetworkLocation
import CloudAudit.Proofs.Target.Selected

/-! The host that a request names is the location its entries are matched on. -/
namespace CloudAudit

inductive NamesHost (request : Http.Request) (host : String) : Prop
  | header {value : ByteArray} (first : Http.IsFirstHeader request.headers "host" value)
    (text : Http.IsVisibleText host value)
  | authority (unreadable : ∀ value text, Http.IsFirstHeader request.headers "host" value →
      ¬ Http.IsVisibleText text value)
    (given : request.uri.authority = some host)

def Http.Request.WellFormedScheme (request : Http.Request) : Prop :=
  ∀ scheme, request.uri.scheme = some scheme → isScheme scheme.toList = true

namespace AuditRequest

theorem host?_eq_some_iff {request : Http.Request} {host : String} :
    host? request = some host ↔ NamesHost request host := by
  rw [host?, Option.or_eq_some_iff]
  constructor
  · rintro (read | ⟨unread, given⟩)
    · obtain ⟨value, first, text⟩ := Option.bind_eq_some_iff.1 read
      exact .header (Http.firstHeader?_eq_some_iff.1 first) (Http.headerText?_eq_some_iff.1 text)
    · refine .authority (fun value text first visible => ?_) given
      have read := Option.bind_eq_some_iff.2
        ⟨value, Http.firstHeader?_eq_some_iff.2 first, Http.headerText?_eq_some_iff.2 visible⟩
      rw [unread] at read
      cases read
  · rintro (⟨first, text⟩ | ⟨unreadable, given⟩)
    · exact .inl (Option.bind_eq_some_iff.2
        ⟨_, Http.firstHeader?_eq_some_iff.2 first, Http.headerText?_eq_some_iff.2 text⟩)
    · refine .inr ⟨Option.eq_none_iff_forall_ne_some.2 fun text read => ?_, given⟩
      obtain ⟨value, first, visible⟩ := Option.bind_eq_some_iff.1 read
      exact unreadable value text (Http.firstHeader?_eq_some_iff.1 first)
        (Http.headerText?_eq_some_iff.1 visible)

/-- A host is set behind a scheme, which is that of the web where the URI has none. -/
theorem networkLocation?_hostUrlOf {request : Http.Request} (formed : request.WellFormedScheme) :
    networkLocation? (hostUrlOf request) =
      (host? request).bind fun host => networkLocation? ("//" ++ host) := by
  rw [hostUrlOf]
  cases host? request with
  | none => rfl
  | some host =>
    apply networkLocation?_behind_scheme
    cases given : request.uri.scheme with
    | none => decide
    | some scheme => exact formed scheme given

theorem networkLocation?_of_named {request : Http.Request} (formed : request.WellFormedScheme)
    {host : String} (named : NamesHost request host) (nonempty : host ≠ "")
    (plain : ∀ c ∈ host.toList, c ≠ '/' ∧ c ≠ '?' ∧ c ≠ '#') :
    networkLocation? (hostUrlOf request) = some host := by
  rw [networkLocation?_hostUrlOf formed, host?_eq_some_iff.2 named, Option.bind_some]
  apply networkLocation?_behind_slashes nonempty
  intro c member
  simp [endsAuthority, plain c member]

/-- An empty host is none, also where it stands in front of an authority. -/
theorem networkLocation?_of_unnamed {request : Http.Request} (formed : request.WellFormedScheme)
    (unnamed : ∀ host, NamesHost request host → host = "") :
    networkLocation? (hostUrlOf request) = none := by
  rw [networkLocation?_hostUrlOf formed]
  cases named : host? request with
  | none => rfl
  | some host =>
    rw [unnamed host (host?_eq_some_iff.1 named)]
    decide

theorem networkLocation?_of_scheme {request : Http.Request} (formed : request.WellFormedScheme)
    {scheme : Option String} (wellFormed : ∀ text, scheme = some text → isScheme text.toList = true) :
    networkLocation? (hostUrlOf { request with uri := { request.uri with scheme } }) =
      networkLocation? (hostUrlOf request) := by
  rw [networkLocation?_hostUrlOf formed]
  exact networkLocation?_hostUrlOf wellFormed

end AuditRequest

namespace Selection

theorem ofCatalog_congr {hostUrl other : String}
    (same : networkLocation? hostUrl = networkLocation? other) (map : AuditMap)
    (catalog : Catalog) : ofCatalog map hostUrl catalog = ofCatalog map other catalog := by
  have matched : matchesHost hostUrl = matchesHost other := by
    funext entry
    rw [matchesHost, matchesHost, same]
  rw [ofCatalog, ofCatalog, matched]

theorem ofCatalog_at_location {hostUrl location : String}
    (found : networkLocation? hostUrl = some location) (map : AuditMap) (catalog : Catalog)
    (entry : CatalogEntry) :
    ofCatalog map hostUrl catalog = .byHost entry ↔
      ∃ before after, catalog.entries = before ++ entry :: after ∧
        First (location ∈ ·.locations) before entry := by
  have atHost (entry : CatalogEntry) : entry.AtHost hostUrl ↔ location ∈ entry.locations := by
    simp [CatalogEntry.AtHost, found]
  simp only [ofCatalog_eq_byHost_iff, atHost]

theorem ofCatalog_nowhere {hostUrl : String} (nowhere : networkLocation? hostUrl = none)
    (map : AuditMap) (catalog : Catalog) (entry : CatalogEntry) :
    ofCatalog map hostUrl catalog ≠ .byHost entry := by
  intro matched
  obtain ⟨_, _, _, first⟩ := ofCatalog_eq_byHost_iff.1 matched
  obtain ⟨location, _, found⟩ := first.here
  rw [nowhere] at found
  cases found

/-- A host without a character that would end it is the location of the URL, and the first entry at
that location is selected; without a host no entry is matched. The scheme of the request plays no
part. -/
theorem byHost_of_named_host (request : Http.Request)
    (formed : request.WellFormedScheme) (body : Option ByteArray) :
    let hostUrl := (AuditRequest.ofHttp request body).hostUrl
    (∀ host, NamesHost request host → host ≠ "" →
      (∀ c ∈ host.toList, c ≠ '/' ∧ c ≠ '?' ∧ c ≠ '#') →
        networkLocation? hostUrl = some host ∧
          ∀ map catalog entry, ofCatalog map hostUrl catalog = .byHost entry ↔
            ∃ before after, catalog.entries = before ++ entry :: after ∧
              First (host ∈ ·.locations) before entry) ∧
      ((∀ host, NamesHost request host → host = "") →
        networkLocation? hostUrl = none ∧
          ∀ map catalog entry, ofCatalog map hostUrl catalog ≠ .byHost entry) ∧
      ∀ scheme, (∀ text, scheme = some text → isScheme text.toList = true) →
        let moved : Http.Request := { request with uri := { request.uri with scheme } }
        let other := (AuditRequest.ofHttp moved body).hostUrl
        networkLocation? other = networkLocation? hostUrl ∧
          ∀ map catalog, ofCatalog map other catalog = ofCatalog map hostUrl catalog := by
  intro hostUrl
  refine ⟨?_, ?_, ?_⟩
  · intro host named nonempty plain
    have found := AuditRequest.networkLocation?_of_named formed named nonempty plain
    exact ⟨found, ofCatalog_at_location found⟩
  · intro unnamed
    have nowhere := AuditRequest.networkLocation?_of_unnamed formed unnamed
    exact ⟨nowhere, ofCatalog_nowhere nowhere⟩
  · intro scheme wellFormed moved other
    have same := AuditRequest.networkLocation?_of_scheme formed wellFormed
    exact ⟨same, ofCatalog_congr same⟩

/-- The first host header cannot be read, and colons stand in all parts of the authority; an empty
header that can be read hides it. -/
theorem byHost_of_named_host_in_brackets :
    let location := "user:pw@[::1]:8774"
    let request : Http.Request := ⟨.get, ⟨some "https", some location, "/v2", none⟩,
      [⟨"HOST", ⟨#[0xE9]⟩⟩, ⟨"Host", "glance".toUTF8⟩], .empty⟩
    let silent : Http.Request := { request with headers := [⟨"Host", .empty⟩] }
    let glance : CatalogEntry := ⟨"image", "glance", [{ adminUrl := some "http://glance" }]⟩
    let nova : CatalogEntry :=
      ⟨"compute", "nova", [{ publicUrl := some ("http://" ++ location ++ "/v2") }]⟩
    let hostUrl := (AuditRequest.ofHttp request none).hostUrl
    request.WellFormedScheme ∧ NamesHost request location ∧
      networkLocation? hostUrl = some location ∧
      ofCatalog .empty hostUrl ⟨[glance, nova]⟩ = .byHost nova ∧
      networkLocation? (AuditRequest.ofHttp silent none).hostUrl = none := by
  intro location request silent glance nova hostUrl
  have formed : request.WellFormedScheme := by
    rintro scheme ⟨rfl⟩
    decide
  have named : NamesHost request location := AuditRequest.host?_eq_some_iff.1 (by decide +kernel)
  have hidden : AuditRequest.host? silent = some "" := by decide +kernel
  have plain : (location.toList.all fun c => c ≠ '/' ∧ c ≠ '?' ∧ c ≠ '#') = true := by
    decide +kernel
  obtain ⟨found, matched⟩ := (byHost_of_named_host request formed none).1 location named
    (by decide) fun c member => of_decide_eq_true (List.all_eq_true.1 plain c member)
  have first : First (location ∈ ·.locations) [glance] nova :=
    ⟨by decide +kernel, by decide +kernel⟩
  refine ⟨formed, named, found, (matched .empty _ nova).2 ⟨[glance], [], rfl, first⟩, ?_⟩
  apply ((byHost_of_named_host silent formed none).2.1 _).1
  intro host named
  have read := AuditRequest.host?_eq_some_iff.2 named
  rw [hidden] at read
  exact (Option.some.inj read).symm

end Selection

end CloudAudit
