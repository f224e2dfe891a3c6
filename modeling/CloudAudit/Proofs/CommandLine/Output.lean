import CloudAudit.CommandLine.Run
import CloudAudit.Proofs.AuditMap.Writes
import CloudAudit.Proofs.Json.LaidOut

/-! What the commands print is read back as what they print it of: the audit map with all its pairs
in order, the target with its addresses. So no two audit maps are printed alike. -/
namespace CloudAudit

namespace Json

/-- A document without numbers. -/
def Textual (json : Json) : Prop := json.AllWords fun word => ∀ text, word ≠ .atom (.number text)

theorem Textual.readable {json : Json} (textual : json.Textual) : json.AllWords Readable := by
  intro word inside
  cases word with
  | name => trivial
  | atom value =>
    cases value with
    | number text => exact absurd rfl (textual _ inside text)
    | null | bool | string | array | object => trivial

theorem textual_string (text : String) : (Json.string text).Textual := by
  rw [Textual, allWords_of_isAtom rfl]
  exact fun _ => nofun

theorem textual_null : Json.null.Textual := by
  rw [Textual, allWords_of_isAtom rfl]
  exact fun _ => nofun

theorem textual_array {items : List Json} (each : ∀ item ∈ items, item.Textual) :
    (Json.array items).Textual :=
  allWords_array.2 each

theorem textual_object {members : List (String × Json)}
    (each : ∀ member ∈ members, member.2.Textual) : (Json.object members).Textual :=
  allWords_object.2 fun member inside => ⟨fun _ => nofun, each member inside⟩

end Json

open Json (Textual textual_string textual_null textual_array textual_object depth_array_le
  depth_object_le)

structure ListsAll (find : String → Option String) (pairs : List (String × String)) : Prop where
  sorted : (pairs.map fun pair => pair.1.toList.map Char.toNat).Pairwise (· < ·)
  found : ∀ key value, (key, value) ∈ pairs ↔ find key = some value

def ShowsTable (find : String → Option String) (json : Json) : Prop :=
  ∃ pairs, ListsAll find pairs ∧ json = .object (pairs.map fun pair => (pair.1, .string pair.2))

def AuditMap.ShownBy (map : AuditMap) (json : Json) : Prop :=
  ∃ keywords actions endpoints,
    ShowsTable map.pathKeyword? keywords ∧ ShowsTable map.customAction? actions ∧
      ShowsTable map.serviceType? endpoints ∧
      json = .object
        [("path_keywords", keywords), ("custom_actions", actions),
          ("service_endpoints", endpoints),
          ("default_target_endpoint_type", map.defaultEndpointType.elim .null .string)]

theorem Table.showsTable (table : Table) : ShowsTable table.get? table.toJson :=
  ⟨table.entries, ⟨table.codes_sorted, fun key value => (table.get?_eq_some_iff key value).symm⟩,
    rfl⟩

theorem AuditMap.shownBy_toJson (map : AuditMap) : map.ShownBy map.toJson :=
  ⟨_, _, _, map.pathKeywords.showsTable, map.customActions.showsTable,
    map.serviceEndpoints.showsTable, rfl⟩

theorem Table.textual_toJson (table : Table) : table.toJson.Textual := by
  apply textual_object
  intro member inside
  obtain ⟨entry, _, rfl⟩ := List.mem_map.1 inside
  exact textual_string entry.2

theorem AuditMap.textual_toJson (map : AuditMap) : map.toJson.Textual := by
  have default : (map.defaultEndpointType.elim Json.null Json.string).Textual := by
    cases map.defaultEndpointType with
    | none => exact textual_null
    | some text => exact textual_string text
  apply textual_object
  simp only [List.forall_mem_cons]
  exact ⟨map.pathKeywords.textual_toJson, map.customActions.textual_toJson,
    map.serviceEndpoints.textual_toJson, default, List.forall_mem_nil _⟩

theorem Address.textual_toJson (address : Address) : address.toJson.Textual := by
  apply textual_object
  simp only [List.forall_mem_cons]
  exact ⟨textual_string _, textual_string _, List.forall_mem_nil _⟩

theorem Target.textual_toJson (target : Target) : target.toJson.Textual := by
  have addresses : (Json.array (target.addresses.map Address.toJson)).Textual := by
    apply textual_array
    intro item inside
    obtain ⟨address, _, rfl⟩ := List.mem_map.1 inside
    exact address.textual_toJson
  apply textual_object
  simp only [List.forall_mem_cons]
  exact ⟨textual_string _, textual_string _, textual_string _, addresses, List.forall_mem_nil _⟩

theorem Table.depth_toJson (table : Table) : table.toJson.depth ≤ 1 := by
  have inner : 0 + table.toJson.depth ≤ 1 := by
    apply depth_object_le Nat.zero_lt_one
    intro member inside
    obtain ⟨entry, _, rfl⟩ := List.mem_map.1 inside
    simp [Json.depth]
  rwa [Nat.zero_add] at inner

theorem AuditMap.depth_toJson (map : AuditMap) : map.toJson.depth ≤ 2 := by
  have default : (map.defaultEndpointType.elim Json.null Json.string).depth = 0 := by
    cases map.defaultEndpointType <;> simp [Json.depth]
  have keywords := map.pathKeywords.depth_toJson
  have actions := map.customActions.depth_toJson
  have endpoints := map.serviceEndpoints.depth_toJson
  simp only [toJson, Json.depth, Json.memberDepth, default]
  omega

theorem Target.depth_toJson (target : Target) : target.toJson.depth ≤ 3 := by
  have addresses : 1 + (Json.array (target.addresses.map Address.toJson)).depth ≤ 3 := by
    apply depth_array_le (by decide)
    intro item inside
    obtain ⟨address, _, rfl⟩ := List.mem_map.1 inside
    simp [Address.toJson, Json.depth, Json.memberDepth]
  simp only [toJson, Json.depth, Json.memberDepth] at addresses ⊢
  omega

theorem Table.toJson_injective : Function.Injective Table.toJson := by
  rintro ⟨entries, _⟩ ⟨others, _⟩ same
  have pairs : Function.Injective
      fun entry : String × String => (entry.1, Json.string entry.2) := by
    rintro ⟨key, value⟩ ⟨other, text⟩ equal
    cases equal
    rfl
  have equal : entries = others := pairs.list_map (Json.object.inj same)
  cases equal
  rfl

theorem AuditMap.toJson_injective : Function.Injective AuditMap.toJson := by
  rintro ⟨keywords, actions, endpoints, default⟩ ⟨others, customs, services, endpointType⟩ same
  simp only [toJson, Json.object.injEq, List.cons.injEq, Prod.mk.injEq, true_and, and_true] at same
  obtain ⟨sameKeywords, sameActions, sameEndpoints, sameDefault⟩ := same
  cases Table.toJson_injective sameKeywords
  cases Table.toJson_injective sameActions
  cases Table.toJson_injective sameEndpoints
  cases default <;> cases endpointType <;> cases sameDefault <;> rfl

namespace CommandLine

theorem read_printed {json : Json} (textual : json.Textual) (shallow : json.depth ≤ 3) :
    Json.ofBytes? (json.pretty ++ "\n").toUTF8 = some json :=
  Json.ofBytes?_pretty textual.readable (Nat.le_trans shallow (by decide))
    (List.forall_mem_cons.2 ⟨by decide, List.forall_mem_nil _⟩)

/-- The text that is printed of an audit map is read back as an object that shows all of the map,
and the text of a target as an object with the four parts of the target. So two maps with one text
are the same. -/
theorem printed_faithful (entry : String → FileEntry) :
    (∀ map : AuditMap, ∃ text json, runCommand entry map .inspect = .ok (pure text) ∧
        Json.ofBytes? text.toUTF8 = some json ∧ map.ShownBy json) ∧
      (∀ target : Target, Json.ofBytes? (target.toJson.pretty ++ "\n").toUTF8 =
        some (.object
          [("typeURI", .string target.typeUri), ("id", .string target.id),
            ("name", .string target.name),
            ("addresses", .array (target.addresses.map fun address =>
              .object [("name", .string address.name), ("url", .string address.url)]))])) ∧
      (∀ (map : AuditMap) (path hostUrl : String) (catalog : Option String), ∃ target : Target,
        target = (map.target
          { method := .get, path, hostUrl, serviceCatalog := catalog.map Text.trim }).value ∧
        (runTarget map path hostUrl catalog).value = target.toJson.pretty ++ "\n") ∧
      Function.Injective fun map => runCommand entry map .inspect := by
  have inspected (map : AuditMap) :
      Json.ofBytes? (map.toJson.pretty ++ "\n").toUTF8 = some map.toJson :=
    read_printed map.textual_toJson (Nat.le_succ_of_le map.depth_toJson)
  refine ⟨fun map => ⟨_, _, rfl, inspected map, map.shownBy_toJson⟩,
    fun target => read_printed target.textual_toJson target.depth_toJson,
    fun map path hostUrl catalog => ⟨_, rfl, rfl⟩, fun map other same => ?_⟩
  have texts : map.toJson.pretty ++ "\n" = other.toJson.pretty ++ "\n" :=
    congrArg Logged.value (Except.ok.inj same)
  have read := inspected other
  rw [← texts, inspected map] at read
  exact AuditMap.toJson_injective (Option.some.inj read)

end CommandLine

end CloudAudit
