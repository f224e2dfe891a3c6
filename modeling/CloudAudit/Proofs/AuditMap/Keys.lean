import CloudAudit.Proofs.Action.Segment
import CloudAudit.Proofs.AuditMap.Values
import CloudAudit.Proofs.AuditMap.Writes
import CloudAudit.Proofs.Text.Ends

/-! Keys of maps that are parsed. A parsed map is what its settings write, and every setting that is
read has a key that is trimmed and not empty, so that each key of the map can be looked up by a
segment, and the empty segment is none of them. -/
namespace CloudAudit

namespace Ini

open Text

structure Setting.Clean (setting : Setting) : Prop where
  nonempty : setting.key ≠ ""
  key : Trimmed setting.key.toList
  value : Trimmed setting.value.toList

/-- A turn leaves a trimmed key, and a setting is made only of a key that is not empty. -/
theorem Step.clean {fresh : Bool} {key waiting text after : List Char} {item : Option Item}
    (step : Step fresh key text item waiting after) (trimmed : Trimmed key) :
    Trimmed waiting ∧ ∀ setting, item = some (.setting setting) → setting.Clean := by
  cases step with
  | comment | space | dropped => exact ⟨trimmed, nofun⟩
  | header => exact ⟨trimmed, nofun⟩
  | @name _ _ _ name _ _ _ => exact ⟨trimmed_trimChars name, nofun⟩
  | @value _ _ value _ _ waits _ =>
    refine ⟨⟨nofun, nofun⟩, ?_⟩
    rintro _ ⟨⟩
    refine ⟨by simpa using waits, ?_, ?_⟩
    · rwa [String.toList_ofList]
    · rw [String.toList_ofList]
      exact trimmed_trimChars value

theorem Run.clean {fresh : Bool} {key text : List Char} {items : List Item}
    (run : Run fresh key text items) (trimmed : Trimmed key) :
    ∀ setting, .setting setting ∈ items → setting.Clean := by
  induction run with
  | done => nofun
  | turn step skipped more ih =>
    obtain ⟨waiting, made⟩ := step.clean trimmed
    intro setting member
    rcases List.mem_append.1 member with here | later
    · exact made setting (Option.mem_toList.1 here)
    · exact ih waiting setting later

end Ini

namespace AuditMap

open Text (Trimmed lowercase)

def writesOf (part : Ini.Section) : List Write :=
  match lowercase part.name with
  | "custom_actions" => part.settings.map fun setting =>
      .entry .customAction setting.key setting.value
  | "path_keywords" => part.settings.map fun setting =>
      .entry .pathKeyword setting.key setting.value
  | "service_endpoints" => part.settings.map fun setting =>
      .entry .serviceEndpoint setting.key setting.value
  | "default" =>
    match part.settings.filter (·.key.toLower = "target_endpoint_type") with
    | [] => []
    | first :: _ => [.defaultType first.value]
  | _ => []

theorem withSection_eq_writes (map : AuditMap) (part : Ini.Section) :
    map.withSection part = (writesOf part).foldl Write.apply map := by
  rw [withSection]
  split
  case h_1 name | h_2 name | h_3 name =>
    simp only [writesOf, name, List.foldl_map]
    rfl
  case h_4 name =>
    simp only [writesOf, name]
    cases part.settings.filter (·.key.toLower = "target_endpoint_type") <;> rfl
  case h_5 noActions noKeywords noEndpoints noDefault =>
    rw [writesOf]
    split
    case h_1 name => exact absurd name noActions
    case h_2 name => exact absurd name noKeywords
    case h_3 name => exact absurd name noEndpoints
    case h_4 name => exact absurd name noDefault
    case h_5 => rfl

theorem meaning_eq_written (sections : List Ini.Section) :
    meaning sections = written (sections.flatMap writesOf) := by
  rw [meaning, written, List.foldl_flatMap]
  congr 1
  funext map part
  exact map.withSection_eq_writes part

/-- Everything that is written was set in the section. -/
theorem mem_writesOf {part : Ini.Section} {write : Write} (member : write ∈ writesOf part) :
    ∃ setting ∈ part.settings, write = .defaultType setting.value ∨
      ∃ kind, write = .entry kind setting.key setting.value := by
  rw [writesOf] at member
  split at member
  case h_1 | h_2 | h_3 =>
    obtain ⟨setting, listed, rfl⟩ := List.mem_map.1 member
    exact ⟨setting, listed, .inr ⟨_, rfl⟩⟩
  case h_4 =>
    split at member
    case h_1 => cases member
    case h_2 first rest found =>
      have listed : first ∈ part.settings := List.mem_of_mem_filter (found ▸ List.mem_cons_self)
      exact ⟨first, listed, .inl (List.mem_singleton.1 member)⟩
  case h_5 => cases member

/-- A parsed map is written by clean settings of its text. -/
theorem written_of_parse {text : String} {map : AuditMap}
    (parsed : (parse text).map (·.value) = .ok map) :
    ∃ writes, map = written writes ∧ ∀ write ∈ writes, ∃ setting : Ini.Setting, setting.Clean ∧
      (write = .defaultType setting.value ∨
        ∃ kind, write = .entry kind setting.key setting.value) := by
  obtain ⟨items, read, same⟩ := parse_eq_ok parsed
  refine ⟨_, same.trans (meaning_eq_written _), ?_⟩
  intro write member
  obtain ⟨part, among, inside⟩ := List.mem_flatMap.1 member
  obtain ⟨setting, listed, wrote⟩ := mem_writesOf inside
  have item := Ini.mem_items_of_document (.inr ⟨part, among, listed⟩)
  have start : Trimmed [] := ⟨nofun, nofun⟩
  exact ⟨setting, (Ini.run_of_readItems read).clean start setting item, wrote⟩

/-- Whatever a parsed map holds was set in its text. -/
theorem setting_of_stored {text : String} {map : AuditMap}
    (parsed : (parse text).map (·.value) = .ok map) {kind : Kind} {key value : String}
    (stored : (map.table kind).get? key = some value) :
    ∃ setting : Ini.Setting, setting.Clean ∧ lowercase setting.key = key ∧
      setting.value = value := by
  obtain ⟨writes, rfl, clean⟩ := written_of_parse parsed
  rw [← find?_eq_get?] at stored
  obtain ⟨name, listed, spelled⟩ := exists_write_of_found stored
  obtain ⟨setting, setClean, wrote | ⟨other, wrote⟩⟩ := clean _ listed
  · cases wrote
  · cases wrote
    exact ⟨setting, setClean, spelled, rfl⟩

/-- Every key of a parsed map is a trimmed text in small letters and not empty, and all that stands
under the keys is trimmed, as the default type is. So no segment without characters is a path
keyword. -/
theorem parse_usable_keys {text : String} {map : AuditMap}
    (parsed : (parse text).map (·.value) = .ok map) :
    (∀ kind, ∀ entry ∈ (map.table kind).entries, entry.1 ≠ "" ∧ Trimmed entry.1.toList ∧
      lowercase entry.1 = entry.1 ∧ Trimmed entry.2.toList) ∧
    (∀ endpointType ∈ map.defaultEndpointType, Trimmed endpointType.toList) ∧
    map.isPathKeyword "" = false ∧ map.isPathKeyword (Path.lastSegment "/") = false ∧
    ∀ path, map.isPathKeyword (Path.lastSegment (path ++ "//")) = false := by
  obtain ⟨writes, rfl, clean⟩ := written_of_parse parsed
  have keys : ∀ kind, ∀ entry ∈ ((written writes).table kind).entries, entry.1 ≠ "" ∧
      Trimmed entry.1.toList ∧ lowercase entry.1 = entry.1 ∧ Trimmed entry.2.toList := by
    rintro kind ⟨key, value⟩ stored
    have found : (written writes).find? kind key = some value := by
      rwa [find?_eq_get?, Table.get?_eq_some_iff]
    have lowered := lowercase_of_found found
    rw [find?_written] at found
    obtain ⟨write, listed, wrote⟩ := List.exists_of_findSome?_eq_some found
    obtain ⟨setting, setClean, rfl | ⟨other, rfl⟩⟩ := clean write (List.mem_reverse.1 listed)
    · cases wrote
    · rw [Write.value?] at wrote
      split at wrote
      case isTrue same =>
        cases wrote
        obtain ⟨_, rfl⟩ := same
        exact ⟨Text.lowercase_ne_empty setClean.nonempty, Text.trimmed_lowercase setClean.key,
          lowered, setClean.value⟩
      case isFalse => cases wrote
  have default : ∀ endpointType ∈ (written writes).defaultEndpointType,
      Trimmed endpointType.toList := by
    intro endpointType set
    rw [defaultEndpointType_written] at set
    obtain ⟨write, listed, wrote⟩ := List.exists_of_findSome?_eq_some set
    obtain ⟨setting, setClean, rfl | ⟨other, rfl⟩⟩ := clean write (List.mem_reverse.1 listed)
    · cases wrote
      exact setClean.value
    · cases wrote
  have noKeyword : (written writes).isPathKeyword "" = false := by
    rw [Bool.eq_false_iff]
    intro keyword
    obtain ⟨value, found⟩ := Option.isSome_iff_exists.1 keyword
    have stored := (Table.get?_eq_some_iff _ _ _).1 found
    exact (keys .pathKeyword _ stored).1 rfl
  refine ⟨keys, default, noKeyword, noKeyword, fun path => ?_⟩
  rw [Path.lastSegment_doubled_slash]
  exact noKeyword

theorem parse_usable_keys_of_wide_blanks :
    let text := "[Path_Keywords]\n \u2003SERVERS\u00a0\t: \u3000server\u2028\n[default] " ++
      "target_endpoint_type=\u0085compute \r\n"
    let map := (empty.addPathKeyword "servers" "server").setDefaultEndpointType "compute"
    (parse text).map (·.value) = .ok map ∧
      map.isPathKeyword (Path.lastSegment "/servers//") = false ∧
      ∀ entry ∈ map.pathKeywords.entries, Trimmed entry.1.toList := by
  intro text map
  have parsed : (parse text).map (·.value) = .ok map := by decide +kernel
  obtain ⟨keys, _, _, _, doubled⟩ := parse_usable_keys parsed
  exact ⟨parsed, doubled "/servers", fun entry stored => (keys .pathKeyword entry stored).2.1⟩

end AuditMap

end CloudAudit
