import CloudAudit.Target
import Mathlib.Data.List.Forall2

/-! The one pass over the entries finds what two searches from the start find: one for the host of
the request and, where that fails, one for the default type. -/
namespace CloudAudit

def CatalogEntry.locations (entry : CatalogEntry) : List String :=
  entry.endpoints.head?.toList.flatMap fun endpoint =>
    (endpoint.adminUrl.toList ++ endpoint.publicUrl.toList).filterMap networkLocation?

namespace Selection

def hostPosition? (hostUrl : String) (entries : List CatalogEntry) : Option Nat :=
  (networkLocation? hostUrl).bind fun location =>
    entries.findIdx? fun entry => location ∈ entry.locations

def defaultPosition? (map : AuditMap) (entries : List CatalogEntry) : Option Nat :=
  map.defaultEndpointType.bind fun endpointType =>
    entries.findIdx? fun entry => entry.serviceType = endpointType

def position? (map : AuditMap) (hostUrl : String) (entries : List CatalogEntry) : Option Nat :=
  (hostPosition? hostUrl entries).or (defaultPosition? map entries)

def serviceAt (map : AuditMap) (entries : List CatalogEntry) (position : Option Nat) : Service :=
  (position.bind (entries[·]?)).elim .unknown (.ofEntry map)

/-- Entries with the same type and the same admin and public address at their first endpoints;
all else may differ. -/
structure Alike (left right : CatalogEntry) : Prop where
  serviceType : left.serviceType = right.serviceType
  adminUrl : left.firstEndpoint.adminUrl = right.firstEndpoint.adminUrl
  publicUrl : left.firstEndpoint.publicUrl = right.firstEndpoint.publicUrl

theorem scan_eq_searches (onHost ofDefault : CatalogEntry → Bool) (kept : Option CatalogEntry)
    (entries : List CatalogEntry) :
    scan onHost ofDefault kept entries = (entries.find? onHost).elim
      ((kept.or (entries.find? ofDefault)).elim nothing byDefaultType) byHost := by
  -- a kept entry is what the search for the default type found in the entries before these
  induction entries generalizing kept with
  | nil => simp [scan]
  | cons entry rest ih =>
    cases host : onHost entry with
    | true => simp [scan, host]
    | false =>
      rw [scan, host, ih, List.find?_cons_of_neg (by simp [host])]
      cases same : ofDefault entry <;> cases kept <;> simp [same]

theorem mem_locations (entry : CatalogEntry) (location : String) :
    location ∈ entry.locations ↔
      entry.firstEndpoint.adminUrl.bind networkLocation? = some location ∨
        entry.firstEndpoint.publicUrl.bind networkLocation? = some location := by
  cases listed : entry.endpoints with
  | nil => simp [CatalogEntry.locations, CatalogEntry.firstEndpoint, listed]
  | cons endpoint rest =>
    simp [CatalogEntry.locations, CatalogEntry.firstEndpoint, listed,
      Option.bind_eq_some_iff]

theorem find?_matchesHost (hostUrl : String) (entries : List CatalogEntry) :
    entries.find? (matchesHost hostUrl) = (hostPosition? hostUrl entries).bind (entries[·]?) := by
  cases host : networkLocation? hostUrl with
  | none => simp [hostPosition?, host, matchesHost]
  | some location =>
    rw [hostPosition?, host, Option.bind_some, List.find?_eq_bind_findIdx?_getElem?]
    have same : matchesHost hostUrl = fun entry => decide (location ∈ entry.locations) := by
      funext entry
      rw [Bool.eq_iff_iff, decide_eq_true_iff, mem_locations]
      simp [matchesHost, onHost, host]
    rw [same]

theorem find?_ofDefaultType (map : AuditMap) (entries : List CatalogEntry) :
    entries.find? (ofDefaultType map) = (defaultPosition? map entries).bind (entries[·]?) := by
  cases configured : map.defaultEndpointType with
  | none => simp [defaultPosition?, configured, ofDefaultType]
  | some endpointType =>
    rw [defaultPosition?, configured, Option.bind_some, List.find?_eq_bind_findIdx?_getElem?]
    have same : ofDefaultType map = fun entry => decide (entry.serviceType = endpointType) := by
      funext entry
      simp [ofDefaultType, configured, eq_comm]
    rw [same]

theorem ofCatalog_eq_searches (map : AuditMap) (hostUrl : String) (catalog : Catalog) :
    ofCatalog map hostUrl catalog = (catalog.entries.find? (matchesHost hostUrl)).elim
      ((catalog.entries.find? (ofDefaultType map)).elim nothing byDefaultType) byHost := by
  rw [ofCatalog, scan_eq_searches, Option.none_or]

theorem entry_at_position (map : AuditMap) (hostUrl : String) (entries : List CatalogEntry) :
    (position? map hostUrl entries).bind (entries[·]?) =
      (entries.find? (matchesHost hostUrl)).or (entries.find? (ofDefaultType map)) := by
  rw [find?_matchesHost, find?_ofDefaultType, position?]
  cases host : hostPosition? hostUrl entries with
  | none => rfl
  | some position =>
    -- an entry stands at the position, so the second search does not count beside it
    obtain ⟨location, _, found⟩ := Option.bind_eq_some_iff.1 host
    obtain ⟨bound, _⟩ := List.findIdx?_eq_some_iff_getElem.1 found
    simp [bound]

theorem service_eq_serviceAt (map : AuditMap) (hostUrl : String) (catalog : Catalog) :
    (map.selectService hostUrl catalog).value =
      serviceAt map catalog.entries (position? map hostUrl catalog.entries) := by
  rw [serviceAt, entry_at_position, AuditMap.selectService, ofCatalog_eq_searches]
  cases catalog.entries.find? (matchesHost hostUrl) with
  | some entry => rfl
  | none => cases catalog.entries.find? (ofDefaultType map) <;> rfl

theorem Alike.locations {left right : CatalogEntry} (alike : Alike left right) (location : String) :
    location ∈ left.locations ↔ location ∈ right.locations := by
  rw [mem_locations, mem_locations, alike.adminUrl, alike.publicUrl]

theorem findIdx?_alike {p : CatalogEntry → Bool} {entries others : List CatalogEntry}
    (respects : ∀ left right, Alike left right → p left = p right)
    (alike : List.Forall₂ Alike entries others) : entries.findIdx? p = others.findIdx? p := by
  induction alike with
  | nil => rfl
  | cons head _ ih => rw [List.findIdx?_cons, List.findIdx?_cons, respects _ _ head, ih]

theorem position?_alike (map : AuditMap) (hostUrl : String) {entries others : List CatalogEntry}
    (alike : List.Forall₂ Alike entries others) :
    position? map hostUrl entries = position? map hostUrl others := by
  have host : hostPosition? hostUrl entries = hostPosition? hostUrl others := by
    apply Option.bind_congr
    intro location _
    apply findIdx?_alike _ alike
    intro left right same
    simp only [same.locations location]
  have byType : defaultPosition? map entries = defaultPosition? map others := by
    apply Option.bind_congr
    intro endpointType _
    apply findIdx?_alike _ alike
    intro left right same
    rw [same.serviceType]
  rw [position?, position?, host, byType]

end Selection

open Selection

/-- The first entry at the host of the request is selected, wherever entries of the default type
stand; without one it is the first of the default type, and without that the service is unknown.
A URL without a location has no entry at its host. What entries have besides their types and the
admin and public addresses of their first endpoints does not move the selection. -/
theorem AuditMap.selectService_two_searches (map : AuditMap) (hostUrl : String)
    (catalog : Catalog) :
    (map.selectService hostUrl catalog).value =
        serviceAt map catalog.entries (position? map hostUrl catalog.entries) ∧
      (networkLocation? hostUrl = none → (map.selectService hostUrl catalog).value =
        serviceAt map catalog.entries (defaultPosition? map catalog.entries)) ∧
      ∀ others, List.Forall₂ Alike catalog.entries others →
        (map.selectService hostUrl ⟨others⟩).value =
          serviceAt map others (position? map hostUrl catalog.entries) := by
  refine ⟨service_eq_serviceAt map hostUrl catalog, ?_, ?_⟩
  · intro nowhere
    rw [service_eq_serviceAt, position?, hostPosition?, nowhere, Option.bind_none, Option.none_or]
  · intro others alike
    rw [service_eq_serviceAt, position?_alike map hostUrl alike]

theorem AuditMap.selectService_two_searches_past_default :
    let map := empty.setDefaultEndpointType "image"
    let glance : CatalogEntry := ⟨"image", "glance", [{ publicUrl := some "http://glance" }]⟩
    let nova : CatalogEntry := ⟨"compute", "nova",
      [⟨none, some "nova", none, some "http://nova:8774/v2"⟩]⟩
    let moved : CatalogEntry := ⟨"compute", "moved",
      [⟨some "1", some "nova", some "http://glance", some "http://nova:8774/v2"⟩, {}]⟩
    networkLocation? "nova" = none ∧
      (map.selectService "nova" ⟨[glance, nova]⟩).value = .ofEntry map glance ∧
      List.Forall₂ Alike [glance, nova] [glance, moved] ∧
      (map.selectService "http://nova:8774" ⟨[glance, moved]⟩).value = .ofEntry map moved := by
  intro map glance nova moved
  have alike : List.Forall₂ Alike [glance, nova] [glance, moved] :=
    .cons ⟨rfl, rfl, rfl⟩ (.cons ⟨rfl, rfl, rfl⟩ .nil)
  have nowhere : networkLocation? "nova" = none := by decide
  have byType := (selectService_two_searches map "nova" ⟨[glance, nova]⟩).2.1 nowhere
  have byHost :=
    (selectService_two_searches map "http://nova:8774" ⟨[glance, nova]⟩).2.2 [glance, moved] alike
  exact ⟨nowhere, byType.trans (by decide), alike, byHost.trans (by decide)⟩

end CloudAudit
