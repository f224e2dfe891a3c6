import CloudAudit.Proofs.AuditMap.Keys
import CloudAudit.Proofs.AuditMap.Warnings
import CloudAudit.Proofs.Target.Collection

/-! Blank components of type URIs. A parsed map has no blank key, so a blank component is the keyword
of an instance, and the map is warned of every keyword that is blank. -/
namespace CloudAudit

namespace Path

theorem segments_of_instance {segment : String} (noSlash : '/' ∉ segment.toList) :
    segments (segment ++ ".json" ++ "/") = [segment, ""] := by
  have named : '/' ∉ (segment ++ ".json").toList := by simpa using noSlash
  have nothing : segments "" = [""] := by decide
  have cut := segments_append (segment ++ ".json") ""
  rwa [String.append_empty, segments_of_piece named, withoutJson_append, nothing] at cut

end Path

namespace AuditMap

section Parsed

variable {text : String} {map : AuditMap} (parsed : (parse text).map (·.value) = .ok map)

include parsed

theorem trimmed_of_pathKeyword? {segment keyword : String}
    (found : map.pathKeyword? segment = some keyword) :
    Text.isBlank segment = false ∧ Text.Trimmed keyword.toList := by
  have stored : (map.table .pathKeyword).get? segment = some keyword := found
  obtain ⟨setting, clean, rfl, rfl⟩ := setting_of_stored parsed stored
  refine ⟨Bool.eq_false_iff.2 fun blank => ?_, clean.value⟩
  rw [Text.isBlank_iff_of_trimmed (Text.trimmed_lowercase clean.key)] at blank
  exact Text.lowercase_ne_empty clean.nonempty blank

theorem visible_of_isKeywordText (unwarned : ∀ segment, .emptyPathKeyword segment ∉ map.warnings)
    {component : String} (shown : map.IsKeywordText component) :
    Text.isBlank component = false := by
  obtain ⟨⟨segment, keyword⟩, stored, shown⟩ := shown
  have found : map.pathKeyword? segment = some keyword := (Table.get?_eq_some_iff ..).2 stored
  rcases shown with rfl | rfl
  · exact (trimmed_of_pathKeyword? parsed found).1
  · rw [Bool.eq_false_iff]
    exact fun blank => unwarned segment (mem_warnings_iff.2 ⟨_, found, blank⟩)

theorem components_of_warned {segment : String}
    (warned : .emptyPathKeyword segment ∈ map.warnings) (noSlash : '/' ∉ segment.toList) :
    map.components none (Path.segments (segment ++ ".json" ++ "/")) = [segment, ""] := by
  obtain ⟨keyword, found, blank⟩ := mem_warnings_iff.1 warned
  have trimmed := (trimmed_of_pathKeyword? parsed found).2
  obtain rfl := (Text.isBlank_iff_of_trimmed trimmed).1 blank
  have keyword : map.isPathKeyword segment = true := Option.isSome_of_eq_some found
  have noEmpty : map.isPathKeyword "" = false := by
    rw [isPathKeyword_eq_false_iff, Option.eq_none_iff_forall_ne_some]
    intro value stored
    cases (trimmed_of_pathKeyword? parsed stored).1
  rw [Path.segments_of_instance noSlash]
  simp [components, component?, keyword, noEmpty, found]

/-- The components of a type URI are all visible if the map is warned of no empty keyword. Under a
segment that it is warned of, an instance adds an empty component. -/
theorem typeUri_blank_iff_warned :
    ((∀ segment, .emptyPathKeyword segment ∉ map.warnings) →
      ∀ path serviceType,
        let components := map.components none (Path.segments path)
        map.typeUri path serviceType = serviceType ++ joined components ∧
          ∀ component ∈ components, ∃ c ∈ component.toList, Text.isSpace c = false) ∧
      ∀ segment, .emptyPathKeyword segment ∈ map.warnings → '/' ∉ segment.toList →
        ∃ path, map.components none (Path.segments path) = [segment, ""] ∧
          ∀ serviceType, map.typeUri path serviceType = serviceType ++ "/" ++ segment ++ "/" := by
  constructor
  · intro unwarned path serviceType components
    refine ⟨map.typeUri_eq_joined path serviceType, fun component added => ?_⟩
    have shown := map.components_isKeywordText none _ component added
    exact Text.isBlank_eq_false_iff.1 (visible_of_isKeywordText parsed unwarned shown)
  · intro segment warned noSlash
    have added := components_of_warned parsed warned noSlash
    refine ⟨_, added, fun serviceType => ?_⟩
    rw [typeUri_eq_joined, added]
    simp [joined, String.append_assoc]

end Parsed

theorem typeUri_blank_iff_warned_of_build :
    let text (keyword : String) :=
      "[path_keywords]\nservers = server\nbuild.json = " ++ keyword ++ "\n"
    let map (keyword : String) :=
      (empty.addPathKeyword "servers" "server").addPathKeyword "build.json" keyword
    (parse (text "\u3000")).map (·.value) = .ok (map "") ∧
      .emptyPathKeyword "build.json" ∈ (map "").warnings ∧
      (∃ path, ∀ serviceType,
        (map "").typeUri path serviceType = serviceType ++ "/" ++ "build.json" ++ "/") ∧
      (parse (text "build")).map (·.value) = .ok (map "build") ∧
      ∀ component ∈ (map "build").components none (Path.segments "/build.json//7/servers.json/"),
        ∃ c ∈ component.toList, Text.isSpace c = false := by
  intro text map
  have parsedEmpty : (parse (text "\u3000")).map (·.value) = .ok (map "") := by decide +kernel
  have parsedFull : (parse (text "build")).map (·.value) = .ok (map "build") := by decide +kernel
  have warned : .emptyPathKeyword "build.json" ∈ (map "").warnings := by decide +kernel
  have none : (map "build").warnings = [] := by decide +kernel
  have unwarned : ∀ segment, .emptyPathKeyword segment ∉ (map "build").warnings := by simp [none]
  obtain ⟨path, _, shown⟩ :=
    (typeUri_blank_iff_warned parsedEmpty).2 "build.json" warned (by decide)
  obtain ⟨_, visible⟩ :=
    (typeUri_blank_iff_warned parsedFull).1 unwarned "/build.json//7/servers.json/" "service"
  exact ⟨parsedEmpty, warned, ⟨path, shown⟩, parsedFull, visible⟩

end AuditMap

end CloudAudit
