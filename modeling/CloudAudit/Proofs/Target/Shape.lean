import CloudAudit.Audit
import CloudAudit.Proofs.Target.Selected

/-! The two shapes of a target. It shows the entry that was selected, field by field, or that none
was, whatever became of the catalog. -/
namespace CloudAudit.AuditMap

def SelectsFor (map : AuditMap) (request : AuditRequest) (entry : CatalogEntry) : Prop :=
  ∃ text catalog before after, request.serviceCatalog = some text ∧
    Catalog.parse text = .ok catalog ∧ catalog.entries = before ++ entry :: after ∧
    Selects map request.hostUrl before entry after

/-- The target says what the entry holds. A service type that is not mapped and one mapped to the
text for unknown are not told apart. -/
structure Shows (map : AuditMap) (path : String) (entry : CatalogEntry) (target : Target) :
    Prop where
  addresses : target.addresses =
    [⟨"admin", (entry.endpoints.head?.bind (·.adminUrl)).getD "unknown"⟩,
      ⟨"private", (entry.endpoints.head?.bind (·.internalUrl)).getD "unknown"⟩,
      ⟨"public", (entry.endpoints.head?.bind (·.publicUrl)).getD "unknown"⟩]
  name : target.name = entry.name
  id : target.id = (entry.endpoints.head?.bind (·.id)).getD entry.name
  unmapped : map.serviceType? entry.serviceType = none ∨
    map.serviceType? entry.serviceType = some "unknown" → target.typeUri = "unknown"
  mapped : ∀ serviceType, map.serviceType? entry.serviceType = some serviceType →
    serviceType ≠ "unknown" → target.typeUri = serviceType ++ map.typeUri path ""

theorem firstEndpoint_field {α : Type} (entry : CatalogEntry) (field : Endpoint → Option α)
    (absent : field {} = none) :
    field entry.firstEndpoint = entry.endpoints.head?.bind field := by
  rw [CatalogEntry.firstEndpoint]
  cases entry.endpoints with
  | nil => exact absent
  | cons endpoint rest => rfl

theorem shows_targetOf_ofEntry (map : AuditMap) (path : String) (entry : CatalogEntry) :
    map.Shows path entry (map.targetOf path (.ofEntry map entry)) where
  addresses := by
    rw [← firstEndpoint_field entry (·.adminUrl) rfl,
      ← firstEndpoint_field entry (·.internalUrl) rfl,
      ← firstEndpoint_field entry (·.publicUrl) rfl]
    rfl
  name := rfl
  id := by
    rw [← firstEndpoint_field entry (·.id) rfl]
    rfl
  unmapped := by
    rintro (unmapped | unknown)
    · simp [targetOf, Service.ofEntry, Service.isUnknown, unmapped, unknownText]
    · simp [targetOf, Service.ofEntry, Service.isUnknown, unknown, unknownText]
  mapped := by
    intro serviceType stored known
    simp [targetOf, Service.ofEntry, Service.isUnknown, stored, known, unknownText, typeUri]

theorem targetOf_unknown (map : AuditMap) (path : String) :
    map.targetOf path .unknown = ⟨"unknown", "unknown", "unknown", []⟩ := rfl

theorem resolve_value (map : AuditMap) (path hostUrl : String) (catalog : Catalog) :
    (map.resolve path hostUrl (some catalog)).value = map.targetOf path
      ((Selection.ofCatalog map hostUrl catalog).chosen?.elim .unknown (.ofEntry map)) := by
  have served : ∀ selection : Selection,
      (selection.service map).value = selection.chosen?.elim .unknown (.ofEntry map) := by
    intro selection
    cases selection <;> rfl
  rw [← served]
  rfl

theorem target_of_selected {map : AuditMap} {request : AuditRequest} {entry : CatalogEntry}
    (selected : map.SelectsFor request entry) :
    (map.target request).value = map.targetOf request.path (.ofEntry map entry) := by
  obtain ⟨text, catalog, before, after, given, parsed, cut, selects⟩ := selected
  have chosen := Selection.chosen?_ofCatalog_iff.2 ⟨before, after, cut, selects⟩
  rw [map.target_of_read given parsed, resolve_value, chosen, Option.elim_some]

theorem target_of_unselected {map : AuditMap} {request : AuditRequest}
    (unselected : ∀ entry, ¬ map.SelectsFor request entry) :
    (map.target request).value = ⟨"unknown", "unknown", "unknown", []⟩ := by
  cases given : request.serviceCatalog with
  | none => rw [map.target_of_absent given]
  | some text =>
    cases parsed : Catalog.parse text with
    | error error => rw [map.target_of_unread given parsed]
    | ok catalog =>
      have nothing : (Selection.ofCatalog map request.hostUrl catalog).chosen? = none := by
        rw [Option.eq_none_iff_forall_ne_some]
        intro entry chosen
        obtain ⟨before, after, cut, selects⟩ := Selection.chosen?_ofCatalog_iff.1 chosen
        exact unselected entry ⟨text, catalog, before, after, given, parsed, cut, selects⟩
      rw [map.target_of_read given parsed, resolve_value, nothing, Option.elim_none,
        targetOf_unknown]

/-- A target without addresses is one for which nothing was selected, and any other shows the
selected entry with its three addresses. -/
theorem target_shapes (map : AuditMap) (request : AuditRequest) :
    let target := (map.target request).value
    ((∀ entry, ¬ map.SelectsFor request entry) ∧
          target = ⟨"unknown", "unknown", "unknown", []⟩ ∨
        ∃ entry, map.SelectsFor request entry ∧ map.Shows request.path entry target) ∧
      (target.addresses = [] ↔ ∀ entry, ¬ map.SelectsFor request entry) ∧
      target.addresses.length ≠ 1 ∧ target.addresses.length ≠ 2 := by
  intro target
  by_cases selected : ∃ entry, map.SelectsFor request entry
  · obtain ⟨entry, selects⟩ := selected
    have shown : map.Shows request.path entry target := by
      show map.Shows request.path entry (map.target request).value
      rw [target_of_selected selects]
      exact map.shows_targetOf_ofEntry request.path entry
    have three : target.addresses.length = 3 := by
      rw [shown.addresses]
      rfl
    refine ⟨.inr ⟨entry, selects, shown⟩, ⟨fun nothing => ?_, fun none => ?_⟩, ?_, ?_⟩
    · rw [nothing] at three
      cases three
    · exact absurd selects (none entry)
    · omega
    · omega
  · have unselected := not_exists.1 selected
    have unknown : target = ⟨"unknown", "unknown", "unknown", []⟩ := target_of_unselected unselected
    have nothing : target.addresses = [] := by rw [unknown]
    refine ⟨.inl ⟨unselected, unknown⟩, ⟨fun _ => unselected, fun _ => nothing⟩, ?_, ?_⟩
    · rw [nothing]
      decide
    · rw [nothing]
      decide

end CloudAudit.AuditMap
