import CloudAudit.AuditMap.Load
import CloudAudit.Proofs.Ini.Sheet

/-! What sections mean, gone through in order: later settings win, but the first default endpoint
type of a section does. A sheet that writes sections is parsed as what they mean. -/
namespace CloudAudit.AuditMap

def withSetting (add : AuditMap → String → String → AuditMap) (map : AuditMap)
    (setting : Ini.Setting) : AuditMap :=
  add map setting.key setting.value

def withSection (map : AuditMap) (part : Ini.Section) : AuditMap :=
  match Text.lowercase part.name with
  | "custom_actions" => part.settings.foldl (withSetting addCustomAction) map
  | "path_keywords" => part.settings.foldl (withSetting addPathKeyword) map
  | "service_endpoints" => part.settings.foldl (withSetting addServiceEndpoint) map
  | "default" =>
    match part.settings.filter (·.key.toLower = "target_endpoint_type") with
    | [] => map
    | first :: _ => map.setDefaultEndpointType first.value
  | _ => map

def meaning (sections : List Ini.Section) : AuditMap := sections.foldl withSection empty

theorem isEndpointTypeKey_eq (key : String) :
    isEndpointTypeKey key = decide (key.toLower = "target_endpoint_type") := by
  have same : key.toLower = "target_endpoint_type" ↔
      key.toList.map Char.toLower = "target_endpoint_type".toList := by
    have lower : key.toLower = key.map Char.toLower := rfl
    rw [lower, ← String.toList_inj, String.toList_map]
  rw [isEndpointTypeKey, Bool.eq_iff_iff, decide_eq_true_iff, decide_eq_true_iff, same]

theorem addDefault_eq (settings : List Ini.Setting) (map : AuditMap) :
    map.addDefault settings =
      match settings.filter (·.key.toLower = "target_endpoint_type") with
      | [] => map
      | first :: _ => map.setDefaultEndpointType first.value := by
  have same : (fun setting : Ini.Setting => isEndpointTypeKey setting.key) =
      fun setting => decide (setting.key.toLower = "target_endpoint_type") :=
    funext fun setting => isEndpointTypeKey_eq setting.key
  rw [addDefault, same, ← List.head?_filter]
  cases settings.filter (·.key.toLower = "target_endpoint_type") <;> rfl

theorem addSection_value (map : AuditMap) (part : Ini.Section) :
    (map.addSection part).value = map.withSection part := by
  rw [withSection]
  split
  case h_1 name => simp only [addSection, name, String.reduceEq, if_true, if_false]; rfl
  case h_2 name => simp only [addSection, name, String.reduceEq, if_true, if_false]; rfl
  case h_3 name => simp only [addSection, name, String.reduceEq, if_true, if_false]; rfl
  case h_4 name => simp only [addSection, name, if_true]; exact addDefault_eq part.settings map
  case h_5 noActions noKeywords noEndpoints noDefault =>
    simp only [addSection]
    rw [if_neg noDefault, if_neg noActions, if_neg noKeywords, if_neg noEndpoints]
    rfl

theorem addSections_value (sections : List Ini.Section) (map : AuditMap) :
    (addSections sections map).value = sections.foldl withSection map := by
  induction sections generalizing map with
  | nil => rfl
  | cons part rest ih =>
    rw [List.foldl_cons, ← addSection_value]
    exact ih (map.addSection part).value

/-- Whatever blank lines and comments stand in a sheet and however its lines end, it is parsed as
the meaning of the sections that it writes. -/
theorem parse_sheet {sheet : Ini.Sheet} {sections : List Ini.Section}
    (writes : sheet.Writes sections) :
    (parse (String.ofList sheet.chars)).map (·.value) = .ok (meaning sections) := by
  rw [parse, String.toList_ofList, Ini.read_sheet writes]
  exact congrArg Except.ok (addSections_value sections empty)

theorem parse_sheet_of_mixed_lines :
    let sheet : Ini.Sheet :=
      [(.comment '#' "keys = [of] \r paths".toList, .lf), (.header "PATH_\u212AEYWORDS", .crlf),
        (.blank [' ', '\t'], .crlf), (.setting "Servers" "a\\b = [\"c\" ;\\\\", .crlf),
        (.comment ';' [], .crlf), (.setting "servers" "", .lf), (.blank [], .lf),
        (.header "default", .lf), (.setting "Target_Endpoint_Type" "compute", .crlf),
        (.blank ['\t'], .lf), (.setting "target_endpoint_type" "image", .lf)]
    let sections : List Ini.Section :=
      [⟨"PATH_\u212AEYWORDS", [⟨"Servers", "a\\b = [\"c\" ;\\\\"⟩, ⟨"servers", ""⟩]⟩,
        ⟨"default", [⟨"Target_Endpoint_Type", "compute"⟩, ⟨"target_endpoint_type", "image"⟩]⟩]
    sheet.Writes sections ∧
      (parse (String.ofList sheet.chars)).map (·.value) =
        .ok ((empty.addPathKeyword "servers" "").setDefaultEndpointType "compute") := by
  intro sheet sections
  have writes : sheet.Writes sections := by decide +kernel
  exact ⟨writes, (parse_sheet writes).trans (by decide +kernel)⟩

end CloudAudit.AuditMap
