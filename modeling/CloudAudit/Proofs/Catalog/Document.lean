import CloudAudit.Catalog.Basic
import CloudAudit.Proofs.Json.Printed

/-! Catalogs as documents. The fields of an entry or of an endpoint come in any order, and one that
says no more than its default may be left out. The words of such a document are names of fields and
texts of the catalog. -/
namespace CloudAudit

open Outline

namespace Catalog

structure Field where
  name : String
  spare : Prop
  shows : Json → Prop

structure ShowsAll (fields : List Field) (members : List (String × Json)) : Prop where
  once : (members.map Prod.fst).Nodup
  known : ∀ member ∈ members, ∃ field ∈ fields,
    field.name = member.1 ∧ field.shows member.2
  complete : ∀ field ∈ fields, field.spare ∨ field.name ∈ members.map Prod.fst

def ShowsRecord (fields : List Field) (json : Json) : Prop :=
  ∃ members, json = .object members ∧ ShowsAll fields members

def ShowsList {α : Type} (shows : α → Json → Prop) (values : List α) (json : Json) : Prop :=
  ∃ items, json = .array items ∧ List.Forall₂ shows values items

def textOrNull : Option String → Json
  | some text => .string text
  | none => .null

/-- An address that is not there may be null. -/
def address (name : String) (text : Option String) : Field :=
  ⟨name, text = none, (· = textOrNull text)⟩

def addresses (endpoint : Endpoint) : List (String × Option String) :=
  [("id", endpoint.id), ("adminURL", endpoint.adminUrl), ("internalURL", endpoint.internalUrl),
    ("publicURL", endpoint.publicUrl)]

def endpointFields (endpoint : Endpoint) : List Field :=
  (addresses endpoint).map fun (name, text) => address name text

def ShowsEndpoint (endpoint : Endpoint) : Json → Prop := ShowsRecord (endpointFields endpoint)

def entryFields (entry : CatalogEntry) : List Field :=
  [⟨"type", entry.serviceType = "unknown", (· = .string entry.serviceType)⟩,
    ⟨"name", entry.name = "unknown", (· = .string entry.name)⟩,
    ⟨"endpoints", entry.endpoints = [], ShowsList ShowsEndpoint entry.endpoints⟩]

def ShowsEntry (entry : CatalogEntry) : Json → Prop := ShowsRecord (entryFields entry)

def Shows (catalog : Catalog) : Json → Prop := ShowsList ShowsEntry catalog.entries

def endpointJson (endpoint : Endpoint) : Json :=
  .object ((addresses endpoint).filterMap fun (name, text) =>
    text.map fun text => (name, .string text))

def entryJson (entry : CatalogEntry) : Json :=
  .object [("type", .string entry.serviceType), ("name", .string entry.name),
    ("endpoints", .array (entry.endpoints.map endpointJson))]

def json (catalog : Catalog) : Json := .array (catalog.entries.map entryJson)

theorem names_sublist (fields : List (String × Option String)) :
    ((fields.filterMap fun (name, text) => text.map fun text => (name, Json.string text)).map
      Prod.fst).Sublist (fields.map Prod.fst) := by
  induction fields with
  | nil => exact .slnil
  | cons field rest ih =>
    obtain ⟨name, text⟩ := field
    cases text with
    | none => exact ih.cons name
    | some => exact ih.cons_cons name

theorem shows_endpointJson (endpoint : Endpoint) :
    ShowsEndpoint endpoint (endpointJson endpoint) := by
  refine ⟨_, rfl, ?_, ?_, ?_⟩
  · have distinct : ["id", "adminURL", "internalURL", "publicURL"].Nodup := by decide
    exact distinct.sublist (names_sublist (addresses endpoint))
  · intro member inside
    obtain ⟨⟨name, text⟩, listed, same⟩ := List.mem_filterMap.1 inside
    obtain ⟨text, rfl, rfl⟩ := Option.map_eq_some_iff.1 same
    exact ⟨address name (some text), List.mem_map.2 ⟨_, listed, rfl⟩, rfl, rfl⟩
  · intro field listed
    obtain ⟨⟨name, text⟩, inside, rfl⟩ := List.mem_map.1 listed
    cases text with
    | none => exact .inl rfl
    | some text =>
      refine .inr (List.mem_map.2 ⟨(name, .string text), ?_, rfl⟩)
      exact List.mem_filterMap.2 ⟨_, inside, rfl⟩

theorem shows_map {α : Type} {shows : α → Json → Prop} {document : α → Json}
    (each : ∀ value, shows value (document value)) (values : List α) :
    ShowsList shows values (.array (values.map document)) := by
  refine ⟨_, rfl, ?_⟩
  rw [List.forall₂_map_right_iff, List.forall₂_same]
  exact fun value _ => each value

theorem shows_entryJson (entry : CatalogEntry) : ShowsEntry entry (entryJson entry) := by
  have distinct : ["type", "name", "endpoints"].Nodup := by decide
  refine ⟨_, rfl, distinct, ?_, ?_⟩
  · have endpoints := shows_map shows_endpointJson entry.endpoints
    simp [entryFields, endpoints]
  · simp [entryFields]

theorem shows_json (catalog : Catalog) : catalog.Shows catalog.json :=
  shows_map shows_entryJson catalog.entries

section Words

variable {P : Json.Word → Prop}

theorem allWords_of_record {fields : List Field} {json : Json} (shown : ShowsRecord fields json)
    (names : ∀ field ∈ fields, P (.name field.name))
    (values : ∀ field ∈ fields, ∀ json, field.shows json → json.AllWords P) : json.AllWords P := by
  obtain ⟨members, rfl, all⟩ := shown
  intro word inside
  obtain ⟨member, listed, rfl | inner⟩ := Json.word_mem_object.1 inside
  · obtain ⟨field, known, same, _⟩ := all.known member listed
    exact same ▸ names field known
  · obtain ⟨field, known, _, shown⟩ := all.known member listed
    exact values field known _ shown word inner

theorem shown_of_mem {α β : Type} {shows : α → β → Prop} {values : List α} {items : List β}
    (shown : List.Forall₂ shows values items) {item : β} (listed : item ∈ items) :
    ∃ value ∈ values, shows value item := by
  induction shown with
  | nil => cases listed
  | cons head _ ih =>
    rcases List.mem_cons.1 listed with rfl | later
    · exact ⟨_, .head _, head⟩
    · obtain ⟨value, inside, shown⟩ := ih later
      exact ⟨value, .tail _ inside, shown⟩

theorem allWords_of_list {α : Type} {shows : α → Json → Prop} {values : List α} {json : Json}
    (shown : ShowsList shows values json)
    (each : ∀ value ∈ values, ∀ json, shows value json → json.AllWords P) : json.AllWords P := by
  obtain ⟨items, rfl, all⟩ := shown
  intro word inside
  obtain ⟨item, listed, inner⟩ := Json.word_mem_array.1 inside
  obtain ⟨value, known, shown⟩ := shown_of_mem all listed
  exact each value known item shown word inner

theorem allWords_of_string {text : String} (holds : P (.atom (.string text))) :
    (Json.string text).AllWords P := by
  intro word inside
  simp only [Json.tokens, List.mem_singleton] at inside
  cases inside
  exact holds

theorem allWords_of_textOrNull {text : Option String} (null : P (.atom .null))
    (strings : ∀ text' ∈ text, P (.atom (.string text'))) : (textOrNull text).AllWords P := by
  cases text with
  | some text => exact allWords_of_string (strings text rfl)
  | none =>
    intro word inside
    simp only [textOrNull, Json.tokens, List.mem_singleton] at inside
    cases inside
    exact null

def texts (catalog : Catalog) : List String :=
  catalog.entries.flatMap fun entry =>
    entry.serviceType :: entry.name ::
      entry.endpoints.flatMap fun endpoint => (addresses endpoint).filterMap Prod.snd

def fieldNames : List String :=
  ["type", "name", "endpoints", "id", "adminURL", "internalURL", "publicURL"]

theorem allWords_of_endpoint {endpoint : Endpoint} {json : Json}
    (shown : ShowsEndpoint endpoint json) (names : ∀ name ∈ fieldNames, P (.name name))
    (null : P (.atom .null))
    (strings : ∀ text ∈ (addresses endpoint).filterMap Prod.snd, P (.atom (.string text))) :
    json.AllWords P := by
  refine allWords_of_record shown ?_ ?_
  · intro field listed
    obtain ⟨⟨name, text⟩, inside, rfl⟩ := List.mem_map.1 listed
    have known : name ∈ (addresses endpoint).map Prod.fst := List.mem_map.2 ⟨_, inside, rfl⟩
    have among : ∀ name ∈ ["id", "adminURL", "internalURL", "publicURL"], name ∈ fieldNames := by
      decide
    exact names name (among name known)
  · intro field listed value shown
    obtain ⟨⟨name, text⟩, inside, rfl⟩ := List.mem_map.1 listed
    cases shown
    refine allWords_of_textOrNull null fun text' same => strings text' ?_
    exact List.mem_filterMap.2 ⟨_, inside, same⟩

theorem allWords_of_entry {entry : CatalogEntry} {json : Json} (shown : ShowsEntry entry json)
    (names : ∀ name ∈ fieldNames, P (.name name)) (null : P (.atom .null))
    (type : P (.atom (.string entry.serviceType))) (name : P (.atom (.string entry.name)))
    (strings : ∀ endpoint ∈ entry.endpoints, ∀ text ∈ (addresses endpoint).filterMap Prod.snd,
      P (.atom (.string text))) : json.AllWords P := by
  refine allWords_of_record shown ?_ ?_
  · intro field listed
    simp only [entryFields, List.mem_cons, List.not_mem_nil, or_false] at listed
    rcases listed with rfl | rfl | rfl
    · exact names "type" (by decide)
    · exact names "name" (by decide)
    · exact names "endpoints" (by decide)
  · intro field listed value shown
    simp only [entryFields, List.mem_cons, List.not_mem_nil, or_false] at listed
    rcases listed with rfl | rfl | rfl
    · cases shown
      exact allWords_of_string type
    · cases shown
      exact allWords_of_string name
    · exact allWords_of_list shown fun endpoint inside _ shown =>
        allWords_of_endpoint shown names null (strings endpoint inside)

/-- The words of a document that shows a catalog are the names of fields, null and the texts of
the catalog. -/
theorem allWords_of_shows {catalog : Catalog} {json : Json} (shown : catalog.Shows json)
    (names : ∀ name ∈ fieldNames, P (.name name)) (null : P (.atom .null))
    (strings : ∀ text ∈ catalog.texts, P (.atom (.string text))) : json.AllWords P := by
  refine allWords_of_list shown fun entry inside _ shown => ?_
  have within : ∀ text, text = entry.serviceType ∨ text = entry.name ∨
      (∃ endpoint ∈ entry.endpoints, text ∈ (addresses endpoint).filterMap Prod.snd) →
      P (.atom (.string text)) := by
    intro text among
    refine strings text (List.mem_flatMap.2 ⟨entry, inside, ?_⟩)
    simpa only [List.mem_cons, List.mem_flatMap] using among
  exact allWords_of_entry shown names null (within _ (.inl rfl)) (within _ (.inr (.inl rfl)))
    fun endpoint known text listed => within text (.inr (.inr ⟨endpoint, known, listed⟩))

end Words

def OnLines (catalog : Catalog) : Prop := ∀ text ∈ catalog.texts, Json.OnLine text

theorem onLines_of_shows {catalog : Catalog} {json : Json} (shown : catalog.Shows json)
    (onLines : catalog.OnLines) : json.OnLines := by
  refine allWords_of_shows shown ?_ ?_ ?_
  · have plain : ∀ name ∈ fieldNames, Json.OnLine name := by decide
    rintro name listed text ⟨⟩
    exact plain name listed
  · nofun
  · rintro text inside _ ⟨⟩
    exact onLines text inside

end Catalog

end CloudAudit
