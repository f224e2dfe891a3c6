import CloudAudit.Action
import CloudAudit.Proofs.AuditMap.Warnings

/-! Custom actions that a map is warned of, because the method they name is not one of the usual
ones. Such an entry counts for the requests that form its key, and for no others. -/
namespace CloudAudit

namespace Table

def erase (table : Table) (key : String) : Table :=
  ⟨table.entries.filter (·.1 ≠ key), table.sorted.filter _⟩

theorem get?_erase (table : Table) (key other : String) :
    (table.erase key).get? other = if other = key then none else table.get? other := by
  apply Option.ext
  intro value
  rw [get?_eq_some_iff]
  split
  case isTrue same => simp [erase, same]
  case isFalse differs => simp [erase, differs, get?_eq_some_iff]

end Table

namespace AuditMap

def withoutCustomAction (map : AuditMap) (key : String) : AuditMap :=
  { map with customActions := map.customActions.erase key }

/-- The warnings of custom actions stand for the entries that name another method. -/
theorem flagged_iff {map : AuditMap} {key method : String} :
    .unknownCustomActionMethod key method ∈ map.warnings ↔
      (map.customAction? key).isSome ∧ keyMethod? key = some method ∧ method ∉ knownMethods :=
  mem_warnings_iff

theorem slash_mem_of_keyMethod? {key method : String} (named : keyMethod? key = some method) :
    '/' ∈ key.toList := by
  rw [keyMethod?] at named
  split at named
  · assumption
  · cases named

/-- The key of a request ends in its method, whatever slashes stand before it. -/
theorem keyMethod?_methodKey (segment : String) {method : Http.Method}
    (noSlash : '/' ∉ (Text.lowercase method.token).toList) :
    keyMethod? (methodKey segment method) = some (Text.lowercase method.token) := by
  rw [keyMethod?, toList_methodKey, if_pos (by simp), Path.lastPiece_append_slash _ noSlash]
  simp

/-- An action depends on two entries of the custom actions. -/
theorem classify_withoutCustomAction {map : AuditMap} {key : String} {method : Http.Method}
    {path : String} (otherMethod : methodKey (Path.lastSegment path) method ≠ key)
    (otherSegment : Path.lastSegment path ≠ key) (body : Option ByteArray) :
    (map.withoutCustomAction key).classify method path body = map.classify method path body := by
  have kept (other : String) (differs : other ≠ key) :
      (map.withoutCustomAction key).customAction? other = map.customAction? other := by
    rw [customAction?, withoutCustomAction, Table.get?_erase, if_neg differs]
    rfl
  exact classify_congr (kept _ otherMethod) (kept _ otherSegment) (fun _ => rfl) body

/-- A flagged entry takes effect on the requests whose segment and method form its key, and on no
others; the method of such a request is none of the known ones. -/
theorem classify_of_flagged {map : AuditMap} {key named : String}
    (flagged : .unknownCustomActionMethod key named ∈ map.warnings) (method : Http.Method)
    (path : String) (body : Option ByteArray) :
    (methodKey (Path.lastSegment path) method ≠ key →
      (map.withoutCustomAction key).classify method path body = map.classify method path body) ∧
    (methodKey (Path.lastSegment path) method = key →
      ∃ action, map.customAction? key = some action ∧
        map.classify method path body = ⟨.custom action, []⟩) ∧
    (Text.lowercase method.token ∈ knownMethods →
      methodKey (Path.lastSegment path) method ≠ key) := by
  obtain ⟨stored, names, unknown⟩ := flagged_iff.1 flagged
  refine ⟨fun otherMethod => ?_, fun same => ?_, fun known same => ?_⟩
  · apply classify_withoutCustomAction otherMethod
    rintro rfl
    exact Path.slash_not_mem_lastSegment path (slash_mem_of_keyMethod? names)
  · obtain ⟨action, found⟩ := Option.isSome_iff_exists.1 stored
    refine ⟨action, found, ?_⟩
    rw [classify]
    simp only [same, found]
    rfl
  · have plain : ∀ method ∈ knownMethods, '/' ∉ method.toList := by decide
    rw [← same, keyMethod?_methodKey _ (plain _ known)] at names
    cases names
    exact unknown known

theorem classify_of_flagged_get :
    let map := empty.addCustomAction "servers/trace" "trace"
    .unknownCustomActionMethod "servers/trace" "trace" ∈ map.warnings ∧
      (map.withoutCustomAction "servers/trace").classify .get "/servers" none =
        map.classify .get "/servers" none := by
  intro map
  have flagged : .unknownCustomActionMethod "servers/trace" "trace" ∈ map.warnings := by
    decide +kernel
  obtain ⟨withoutEffect, _, known⟩ := classify_of_flagged flagged .get "/servers" none
  exact ⟨flagged, withoutEffect (known (by decide +kernel))⟩

/-- A method that is none of the known ones is looked up all the same. -/
theorem classify_trace_by_flagged :
    let map := empty.addCustomAction "servers/trace" "trace"
    let trace : Http.Method := ⟨"TRACE", by decide⟩
    .unknownCustomActionMethod "servers/trace" "trace" ∈ map.warnings ∧
      map.classify trace "/servers" none = ⟨.custom "trace", []⟩ ∧
      (map.withoutCustomAction "servers/trace").classify trace "/servers" none =
        ⟨.unknown, []⟩ := by
  decide +kernel

end AuditMap

end CloudAudit
