import CloudAudit.Proofs.AuditMap.Warnings
import CloudAudit.Proofs.AuditMap.Writes
import CloudAudit.Proofs.Target.Shape

/-! The fallback to the default type. The default type is kept as it was set, the keys it is looked
up among are in small letters, and the map is warned when the look-up fails: the fallback then shows
its entry under an unknown type. -/
namespace CloudAudit

namespace Selection

theorem exists_byDefaultType {map : AuditMap} {hostUrl : String} {catalog : Catalog}
    (nowhere : ∀ entry ∈ catalog.entries, ¬ entry.AtHost hostUrl)
    (ofType : ∃ entry ∈ catalog.entries, entry.OfDefaultType map) :
    ∃ entry, ofCatalog map hostUrl catalog = .byDefaultType entry := by
  cases selected : ofCatalog map hostUrl catalog with
  | byHost entry =>
    obtain ⟨_, _, cut, first⟩ := ofCatalog_eq_byHost_iff.1 selected
    exact absurd first.here (nowhere entry (by simp [cut]))
  | byDefaultType entry => exact ⟨entry, rfl⟩
  | nothing =>
    obtain ⟨entry, listed, ofType⟩ := ofType
    exact absurd ofType ((ofCatalog_eq_nothing_iff.1 selected).2 entry listed)

end Selection

namespace AuditMap

open Text (lowercase)

theorem serviceType_ofEntry (map : AuditMap) (entry : CatalogEntry) :
    (Service.ofEntry map entry).serviceType =
      (map.serviceType? entry.serviceType).getD "unknown" := rfl

theorem typeUri_targetOf_ofEntry {map : AuditMap} {entry : CatalogEntry} {taxonomyType : String}
    (mapped : map.serviceType? entry.serviceType = some taxonomyType) (path : String) :
    (map.targetOf path (.ofEntry map entry)).typeUri =
      if taxonomyType = "unknown" then "unknown" else map.typeUri path taxonomyType := by
  by_cases unknown : taxonomyType = "unknown" <;>
    simp [targetOf, serviceType_ofEntry, Service.isUnknown, mapped, unknown, unknownText]

theorem ofEntry_of_warned {map : AuditMap} {entry : CatalogEntry}
    (warned : .unmappedDefaultEndpointType entry.serviceType ∈ map.warnings) (path : String) :
    (Service.ofEntry map entry).serviceType = "unknown" ∧
      (map.targetOf path (.ofEntry map entry)).typeUri = "unknown" := by
  obtain ⟨_, unmapped⟩ := mem_warnings_iff.1 warned
  refine ⟨?_, (map.shows_targetOf_ofEntry path entry).unmapped (.inl unmapped)⟩
  rw [serviceType_ofEntry, unmapped, Option.getD_none]

theorem ofEntry_of_unwarned {map : AuditMap} {entry : CatalogEntry}
    (ofType : entry.OfDefaultType map)
    (unwarned : .unmappedDefaultEndpointType entry.serviceType ∉ map.warnings) (path : String) :
    ∃ taxonomyType, map.serviceType? entry.serviceType = some taxonomyType ∧
      (Service.ofEntry map entry).serviceType = taxonomyType ∧
      (map.targetOf path (.ofEntry map entry)).typeUri =
        if taxonomyType = "unknown" then "unknown" else map.typeUri path taxonomyType := by
  obtain ⟨taxonomyType, mapped⟩ := Option.ne_none_iff_exists'.1 fun unmapped =>
    unwarned (mem_warnings_iff.2 ⟨ofType, unmapped⟩)
  refine ⟨taxonomyType, mapped, ?_, typeUri_targetOf_ofEntry mapped path⟩
  rw [serviceType_ofEntry, mapped, Option.getD_some]

theorem serviceType?_written_of_capital {writes : List Write} {endpointType : String}
    (capital : lowercase endpointType ≠ endpointType) :
    (written writes).serviceType? endpointType = none := by
  rw [Option.eq_none_iff_forall_ne_some]
  intro taxonomyType found
  have stored : (written writes).find? .serviceEndpoint endpointType = some taxonomyType := found
  exact capital (lowercase_of_found stored)

/-- A request that no entry is at the host of falls back on the first entry of the default type, and
the target shows that entry. Its type is unknown if the map is warned of the default type, and what
the default type is mapped to otherwise. The map is warned of nothing but the default type that is
set, once, and also if a key differs from it in its letter case only. -/
theorem default_warning_tells_fallback (map : AuditMap) :
    (∀ endpointType, map.defaultEndpointType = some endpointType →
      ∀ path hostUrl catalog, (∀ entry ∈ catalog.entries, ¬ entry.AtHost hostUrl) →
        (∃ entry ∈ catalog.entries, entry.serviceType = endpointType) →
        let service := (map.selectService hostUrl catalog).value
        let target := (map.resolve path hostUrl (some catalog)).value
        ∃ before entry after, catalog.entries = before ++ entry :: after ∧
          entry.serviceType = endpointType ∧
          (∀ other ∈ before, other.serviceType ≠ endpointType) ∧ map.Shows path entry target ∧
          (.unmappedDefaultEndpointType endpointType ∈ map.warnings →
            service.serviceType = "unknown" ∧ target.typeUri = "unknown") ∧
          (.unmappedDefaultEndpointType endpointType ∉ map.warnings →
            ∃ taxonomyType, map.serviceType? endpointType = some taxonomyType ∧
              service.serviceType = taxonomyType ∧
              target.typeUri =
                if taxonomyType = "unknown" then "unknown" else map.typeUri path taxonomyType)) ∧
      (∀ endpointType, .unmappedDefaultEndpointType endpointType ∈ map.warnings →
        map.defaultEndpointType = some endpointType ∧
          map.warnings.count (.unmappedDefaultEndpointType endpointType) = 1) ∧
      ∀ writes, map = written writes → ∀ endpointType key,
        map.defaultEndpointType = some endpointType → (map.serviceType? key).isSome →
        lowercase endpointType = lowercase key → endpointType ≠ key →
          .unmappedDefaultEndpointType endpointType ∈ map.warnings := by
  refine ⟨?_, ?_, ?_⟩
  · intro endpointType set path hostUrl catalog nowhere ofType service target
    have byType (entry : CatalogEntry) :
        entry.OfDefaultType map ↔ entry.serviceType = endpointType := by
      rw [CatalogEntry.OfDefaultType, set, Option.some.injEq, eq_comm]
    simp only [← byType] at ofType
    obtain ⟨entry, selected⟩ := Selection.exists_byDefaultType nowhere ofType
    obtain ⟨_, before, after, cut, first⟩ := Selection.ofCatalog_eq_byDefaultType_iff.1 selected
    obtain rfl := (byType entry).1 first.here
    have served : service = .ofEntry map entry := by
      show (map.selectService hostUrl catalog).value = _
      rw [selectService, selected]
      rfl
    have shown : target = map.targetOf path (.ofEntry map entry) := by
      show (map.resolve path hostUrl (some catalog)).value = _
      rw [resolve_value, selected]
      rfl
    rw [shown, served]
    refine ⟨before, entry, after, cut, rfl, ?_, map.shows_targetOf_ofEntry path entry,
      fun warned => ofEntry_of_warned warned path,
      fun unwarned => ofEntry_of_unwarned first.here unwarned path⟩
    exact fun other earlier same => first.notBefore other earlier ((byType other).2 same)
  · intro endpointType warned
    exact ⟨(mem_warnings_iff.1 warned).1, List.count_eq_one_of_mem map.warnings_nodup warned⟩
  · rintro writes rfl endpointType key set stored sameLetters differs
    obtain ⟨taxonomyType, found⟩ := Option.isSome_iff_exists.1 stored
    have small : lowercase key = key := by
      have stored : (written writes).find? .serviceEndpoint key = some taxonomyType := found
      exact lowercase_of_found stored
    refine mem_warnings_iff.2 ⟨set, serviceType?_written_of_capital fun smallToo => differs ?_⟩
    rw [← smallToo, sameLetters, small]

theorem default_warning_tells_fallback_of_capital :
    let map (endpointType : String) := written [.entry .serviceEndpoint "Compute" "service/compute",
      .entry .pathKeyword "servers" "server", .defaultType endpointType]
    let glance : CatalogEntry := ⟨"image", "glance", [{ adminUrl := some "http://glance" }]⟩
    let nova (serviceType : String) : CatalogEntry :=
      ⟨serviceType, "nova", [{ publicUrl := some "http://nova" }]⟩
    let target (endpointType : String) : Target := ((map endpointType).resolve "/servers/7"
      "http://elsewhere" (some ⟨[glance, nova endpointType]⟩)).value
    .unmappedDefaultEndpointType "Compute" ∈ (map "Compute").warnings ∧
      (target "Compute").typeUri = "unknown" ∧
      .unmappedDefaultEndpointType "compute" ∉ (map "compute").warnings ∧
      (target "compute").typeUri = "service/compute/servers/server" := by
  intro map glance nova target
  obtain ⟨capital, _, byLetterCase⟩ := default_warning_tells_fallback (map "Compute")
  obtain ⟨small, _, _⟩ := default_warning_tells_fallback (map "compute")
  have warned := byLetterCase _ rfl "Compute" "compute" rfl (by decide +kernel) (by decide +kernel)
    (by decide)
  have unwarned : .unmappedDefaultEndpointType "compute" ∉ (map "compute").warnings := by
    decide +kernel
  obtain ⟨_, _, _, _, _, _, _, unknown, _⟩ := capital "Compute" rfl "/servers/7"
    "http://elsewhere" ⟨[glance, nova "Compute"]⟩ (by decide +kernel) (by decide)
  obtain ⟨_, _, _, _, _, _, _, _, known⟩ := small "compute" rfl "/servers/7"
    "http://elsewhere" ⟨[glance, nova "compute"]⟩ (by decide +kernel) (by decide)
  obtain ⟨taxonomyType, mapped, _, uri⟩ := known unwarned
  have compute : (map "compute").serviceType? "compute" = some "service/compute" := by
    decide +kernel
  obtain rfl := Option.some.inj (mapped.symm.trans compute)
  exact ⟨warned, (unknown warned).2, unwarned, uri.trans (by decide +kernel)⟩

end AuditMap

end CloudAudit
