import CloudAudit.Json.Printer
import CloudAudit.Target

/-! What commands print: audit maps, targets and events as JSON. -/
namespace CloudAudit

def Table.toJson (table : Table) : Json :=
  .object (table.entries.map fun entry => (entry.1, .string entry.2))

def AuditMap.toJson (map : AuditMap) : Json :=
  .object
    [("path_keywords", map.pathKeywords.toJson), ("custom_actions", map.customActions.toJson),
      ("service_endpoints", map.serviceEndpoints.toJson),
      ("default_target_endpoint_type", map.defaultEndpointType.elim .null .string)]

def Address.toJson (address : Address) : Json :=
  .object [("name", .string address.name), ("url", .string address.url)]

def Target.toJson (target : Target) : Json :=
  .object
    [("typeURI", .string target.typeUri), ("id", .string target.id), ("name", .string target.name),
      ("addresses", .array (target.addresses.map Address.toJson))]

def Event.toJson (event : Event) : Json :=
  .object
    [("level", .string event.level.name),
      ("fields", .object (("message", .string event.message) ::
        event.fields.map fun field => (field.1, .string field.2)))]

def Event.line (event : Event) : String :=
  String.intercalate " " (event.level.name :: event.message ::
    event.fields.map fun field => field.1 ++ "=" ++ (Json.string field.2).compact)

end CloudAudit
