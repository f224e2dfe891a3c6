import CloudAudit.Proofs.Target.Shape

/-! The events that the search for a target raises. They tell what became of the catalog and which
of the two searches found the entry, so that a catalog which cannot be read is told from none,
though both give the same target. -/
namespace CloudAudit.AuditMap

inductive SearchEvents (map : AuditMap) (hostUrl : String) (catalog : Catalog) :
    List Event → Prop
  | byHost {before after : List CatalogEntry} {entry : CatalogEntry}
    (cut : catalog.entries = before ++ entry :: after)
    (first : First (·.AtHost hostUrl) before entry) :
    SearchEvents map hostUrl catalog [.matchedByHost entry.name]
  | byDefaultType {before after : List CatalogEntry} {entry : CatalogEntry}
    (nowhere : ∀ other ∈ catalog.entries, ¬ other.AtHost hostUrl)
    (cut : catalog.entries = before ++ entry :: after)
    (first : First (·.OfDefaultType map) before entry) :
    SearchEvents map hostUrl catalog [.matchedByDefaultType entry.name]
  | nothing (nowhere : ∀ entry ∈ catalog.entries, ¬ entry.AtHost hostUrl)
    (noDefault : ∀ entry ∈ catalog.entries, ¬ entry.OfDefaultType map) :
    SearchEvents map hostUrl catalog []

inductive TargetEvents (map : AuditMap) (request : AuditRequest) : List Event → Prop
  | absent (noCatalog : request.serviceCatalog = none) : TargetEvents map request [.catalogMissing]
  | unread {text : String} {error : Catalog.Error} (given : request.serviceCatalog = some text)
    (malformed : Catalog.parse text = .error error) :
    TargetEvents map request [.catalogMalformed, .catalogMissing]
  | read {text : String} {catalog : Catalog} {events : List Event}
    (given : request.serviceCatalog = some text) (parsed : Catalog.parse text = .ok catalog)
    (search : SearchEvents map request.hostUrl catalog events) : TargetEvents map request events

theorem selectService_log_iff {map : AuditMap} {hostUrl : String} {catalog : Catalog}
    {events : List Event} :
    (map.selectService hostUrl catalog).log = events ↔ SearchEvents map hostUrl catalog events := by
  rw [selectService]
  constructor
  · rintro rfl
    cases selected : Selection.ofCatalog map hostUrl catalog with
    | byHost entry =>
      obtain ⟨before, after, cut, first⟩ := Selection.ofCatalog_eq_byHost_iff.1 selected
      exact .byHost cut first
    | byDefaultType entry =>
      obtain ⟨nowhere, before, after, cut, first⟩ :=
        Selection.ofCatalog_eq_byDefaultType_iff.1 selected
      exact .byDefaultType nowhere cut first
    | nothing =>
      obtain ⟨nowhere, noDefault⟩ := Selection.ofCatalog_eq_nothing_iff.1 selected
      exact .nothing nowhere noDefault
  · intro search
    cases search with
    | byHost cut first =>
      rw [Selection.ofCatalog_eq_byHost_iff.2 ⟨_, _, cut, first⟩]
      rfl
    | byDefaultType nowhere cut first =>
      rw [Selection.ofCatalog_eq_byDefaultType_iff.2 ⟨nowhere, _, _, cut, first⟩]
      rfl
    | nothing nowhere noDefault =>
      rw [Selection.ofCatalog_eq_nothing_iff.2 ⟨nowhere, noDefault⟩]
      rfl

theorem resolve_log (map : AuditMap) (path hostUrl : String) (catalog : Catalog) :
    (map.resolve path hostUrl (some catalog)).log = (map.selectService hostUrl catalog).log :=
  List.append_nil _

theorem target_log_iff {map : AuditMap} {request : AuditRequest} {events : List Event} :
    (map.target request).log = events ↔ map.TargetEvents request events := by
  constructor
  · rintro rfl
    cases given : request.serviceCatalog with
    | none =>
      rw [target_of_absent map given]
      exact .absent given
    | some text =>
      cases parsed : Catalog.parse text with
      | error error =>
        rw [target_of_unread map given parsed]
        exact .unread given parsed
      | ok catalog =>
        rw [target_of_read map given parsed, resolve_log]
        exact .read given parsed (selectService_log_iff.1 rfl)
  · intro target
    cases target with
    | absent noCatalog => rw [target_of_absent map noCatalog]
    | unread given malformed => rw [target_of_unread map given malformed]
    | read given parsed search =>
      rw [target_of_read map given parsed, resolve_log, selectService_log_iff.2 search]

theorem catalog_eq_ok_some_iff {request : AuditRequest} {catalog : Catalog} :
    request.catalog = .ok (some catalog) ↔
      ∃ text, request.serviceCatalog = some text ∧ Catalog.parse text = .ok catalog := by
  rw [AuditRequest.catalog]
  cases request.serviceCatalog with
  | none => simp
  | some text => cases parsed : Catalog.parse text <;> simp [parsed, Functor.map, Except.map]

/-- A catalog that was read is spoken of in passing, one that was not is warned of. -/
theorem TargetEvents.level {map : AuditMap} {request : AuditRequest} {events : List Event}
    (target : map.TargetEvents request events) :
    ∀ event ∈ events, event.level = .debug ∧ (∃ catalog, request.catalog = .ok (some catalog)) ∨
      event.level = .warn ∧ ∀ catalog, request.catalog ≠ .ok (some catalog) := by
  intro event raised
  cases target with
  | absent noCatalog =>
    obtain rfl := List.mem_singleton.1 raised
    refine .inr ⟨rfl, fun catalog found => ?_⟩
    obtain ⟨text, given, _⟩ := catalog_eq_ok_some_iff.1 found
    cases noCatalog.symm.trans given
  | unread given malformed =>
    refine .inr ⟨?_, fun catalog found => ?_⟩
    · rcases List.mem_pair.1 raised with rfl | rfl <;> rfl
    · obtain ⟨text, givenToo, parsed⟩ := catalog_eq_ok_some_iff.1 found
      cases given.symm.trans givenToo
      cases malformed.symm.trans parsed
  | read given parsed search =>
    refine .inl ⟨?_, _, catalog_eq_ok_some_iff.2 ⟨_, given, parsed⟩⟩
    cases search with
    | byHost | byDefaultType => exact List.mem_singleton.1 raised ▸ rfl
    | nothing => cases raised

/-- What is logged with a target is how it was found, and nothing else: two warnings for a catalog
that cannot be read, one for none, and for one that is read the search that found an entry. A
catalog that cannot be read gives the target of none, which shows no service. -/
theorem target_log_tells_how (map : AuditMap) (request : AuditRequest) :
    (∀ events, (map.target request).log = events ↔ map.TargetEvents request events) ∧
      (∀ event ∈ (map.target request).log,
        event.level = .debug ∧ (∃ catalog, request.catalog = .ok (some catalog)) ∨
          event.level = .warn ∧ ∀ catalog, request.catalog ≠ .ok (some catalog)) ∧
      ∀ text error, Catalog.parse text = .error error →
        let broken := map.target { request with serviceCatalog := some text }
        let without := map.target { request with serviceCatalog := none }
        broken.value = without.value ∧ broken.value = ⟨"unknown", "unknown", "unknown", []⟩ := by
  refine ⟨fun events => target_log_iff, (target_log_iff.1 rfl).level, ?_⟩
  intro text error malformed broken without
  have unread : broken =
      ⟨⟨"unknown", "unknown", "unknown", []⟩, [.catalogMalformed, .catalogMissing]⟩ :=
    map.target_of_unread rfl malformed
  have absent : without = ⟨⟨"unknown", "unknown", "unknown", []⟩, [.catalogMissing]⟩ :=
    map.target_of_absent rfl
  rw [unread, absent]
  exact ⟨rfl, rfl⟩

theorem target_log_tells_how_of_unclosed :
    let map := empty.setDefaultEndpointType "image"
    let request (text : String) : AuditRequest :=
      ⟨.get, "/servers/7", "http://nova:8774", none, some text⟩
    let unclosed := request "[\x7b'type': 'image'"
    let closed := request "[\x7b'type': 'image', 'name': 'glance'\x7d]"
    ((map.target unclosed).log.map fun event => (event.level, event.message)) =
        [(.warn, "Ignoring malformed service catalog"), (.warn, Event.catalogMissing.message)] ∧
      (map.target unclosed).value.typeUri = "unknown" ∧
      ((map.target closed).log.map fun event => (event.level, event.message, event.fields)) =
        [(.debug, "Target matched by default endpoint type", [("service", "glance")])] := by
  intro map request unclosed closed
  have malformed : Catalog.parse "[\x7b'type': 'image'" = .error .notALiteral := by
    decide +kernel
  have parsed : Catalog.parse "[\x7b'type': 'image', 'name': 'glance'\x7d]" =
      .ok ⟨[⟨"image", "glance", []⟩]⟩ := by
    decide +kernel
  obtain ⟨ofUnclosed, _, same⟩ := target_log_tells_how map unclosed
  obtain ⟨ofClosed, _, _⟩ := target_log_tells_how map closed
  have first : First (·.OfDefaultType map) [] ⟨"image", "glance", []⟩ := ⟨rfl, nofun⟩
  have search : SearchEvents map closed.hostUrl ⟨[⟨"image", "glance", []⟩]⟩
      [.matchedByDefaultType "glance"] :=
    .byDefaultType (by decide +kernel) rfl first
  have found := (ofClosed _).2 (.read rfl parsed search)
  have missed := (ofUnclosed _).2 (.unread rfl malformed)
  obtain ⟨_, unknown⟩ := same _ _ malformed
  exact ⟨by rw [missed]; rfl, congrArg Target.typeUri unknown, by rw [found]; rfl⟩

end CloudAudit.AuditMap
