import CloudAudit.AuditMap.Warning
import Mathlib.Data.List.Nodup

/-! The warnings of a map by what each of them says. A map is warned of whatever deserves it, of
nothing else, and of no entry twice. -/
namespace CloudAudit

def Warning.subject : Warning → String
  | emptyPathKeyword segment => segment
  | unknownCustomActionMethod key _ => key
  | unmappedDefaultEndpointType endpointType => endpointType

namespace AuditMap

def Deserves (map : AuditMap) : Warning → Prop
  | .emptyPathKeyword segment =>
    ∃ keyword, map.pathKeyword? segment = some keyword ∧ Text.isBlank keyword = true
  | .unknownCustomActionMethod key method =>
    (map.customAction? key).isSome ∧ keyMethod? key = some method ∧ method ∉ knownMethods
  | .unmappedDefaultEndpointType endpointType =>
    map.defaultEndpointType = some endpointType ∧ map.serviceType? endpointType = none

theorem keywordWarning?_eq_some_iff {entry : String × String} {warning : Warning} :
    keywordWarning? entry = some warning ↔
      Text.isBlank entry.2 = true ∧ .emptyPathKeyword entry.1 = warning := by
  simp [keywordWarning?]

theorem methodWarning?_eq_some_iff {entry : String × String} {warning : Warning} :
    methodWarning? entry = some warning ↔
      ∃ method, keyMethod? entry.1 = some method ∧ method ∉ knownMethods ∧
        .unknownCustomActionMethod entry.1 method = warning := by
  simp [methodWarning?, Option.bind_eq_some_iff]

theorem defaultWarning?_eq_some_iff {map : AuditMap} {warning : Warning} :
    map.defaultWarning? = some warning ↔
      ∃ endpointType, map.defaultEndpointType = some endpointType ∧
        map.serviceType? endpointType = none ∧
        .unmappedDefaultEndpointType endpointType = warning := by
  simp [defaultWarning?, Option.bind_eq_some_iff]

theorem mem_warnings_iff {map : AuditMap} {warning : Warning} :
    warning ∈ map.warnings ↔ map.Deserves warning := by
  simp only [warnings, List.mem_append, List.mem_filterMap, Option.mem_toList,
    keywordWarning?_eq_some_iff, methodWarning?_eq_some_iff, defaultWarning?_eq_some_iff]
  cases warning with
  | emptyPathKeyword segment =>
    simp [Deserves, pathKeyword?, Table.get?_eq_some_iff]
  | unknownCustomActionMethod key method =>
    simp [Deserves, customAction?, Option.isSome_iff_exists, Table.get?_eq_some_iff]
  | unmappedDefaultEndpointType endpointType => simp [Deserves]

/-- The keys of a table differ, and with them the warnings of its entries. -/
theorem nodup_warningsOf (table : Table) {warning? : String × String → Option Warning}
    (names : ∀ entry warning, warning? entry = some warning → warning.subject = entry.1) :
    (table.entries.filterMap warning?).Nodup := by
  apply List.Pairwise.filterMap warning? _ table.sorted
  intro entry other less warning warned again warnedAgain same
  have sameKey : entry.1 = other.1 := by
    rw [← names entry warning warned, same, names other again warnedAgain]
  exact String.ne_of_lt less sameKey

theorem warnings_nodup (map : AuditMap) : map.warnings.Nodup := by
  have keywords : (map.pathKeywords.entries.filterMap keywordWarning?).Nodup := by
    apply nodup_warningsOf
    intro entry warning warned
    obtain ⟨_, rfl⟩ := keywordWarning?_eq_some_iff.1 warned
    rfl
  have methods : (map.customActions.entries.filterMap methodWarning?).Nodup := by
    apply nodup_warningsOf
    intro entry warning warned
    obtain ⟨_, _, _, rfl⟩ := methodWarning?_eq_some_iff.1 warned
    rfl
  have default : map.defaultWarning?.toList.Nodup := by
    cases map.defaultWarning? <;> simp
  -- a warning of one part is of another kind than those of the other parts
  apply (keywords.append methods _).append default
  · simp only [List.Disjoint, List.mem_append, List.mem_filterMap, Option.mem_toList,
      keywordWarning?_eq_some_iff, methodWarning?_eq_some_iff, defaultWarning?_eq_some_iff]
    rintro _ (⟨_, _, _, rfl⟩ | ⟨_, _, _, _, _, rfl⟩) ⟨_, _, _, same⟩ <;> cases same
  · simp only [List.Disjoint, List.mem_filterMap, keywordWarning?_eq_some_iff,
      methodWarning?_eq_some_iff]
    rintro _ ⟨_, _, _, rfl⟩ ⟨_, _, _, _, _, same⟩
    cases same

end AuditMap

end CloudAudit
