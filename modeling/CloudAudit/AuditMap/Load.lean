import CloudAudit.Event
import CloudAudit.Ini.Reader

/-! Audit maps from documents, texts and files. Sections are known by their lowercased names and are
gone through in order, so that later settings win; other sections are logged and passed over. -/
namespace CloudAudit

inductive FileFault where
  | directory
  | notUtf8
  | missing
deriving DecidableEq, Repr

def FileFault.message : FileFault → String
  | directory => "Is a directory (os error 21)"
  | notUtf8 => "stream did not contain valid UTF-8"
  | missing => "No such file or directory (os error 2)"

inductive FileEntry where
  | absent
  | directory
  | file (content : ByteArray)

def FileEntry.text : FileEntry → Except FileFault String
  | absent => .error .missing
  | directory => .error .directory
  | file content =>
    match String.fromUTF8? content with
    | some text => .ok text
    | none => .error .notUtf8

theorem FileEntry.text_toUTF8 (text : String) : (file text.toUTF8).text = .ok text := by
  have decoded : String.fromUTF8? text.toUTF8 = some text := dif_pos text.isValidUTF8
  rw [FileEntry.text, decoded]

namespace AuditMap

inductive LoadError where
  | file (path : String) (fault : FileFault)
  | malformed (place : Text.Place) (cause : Ini.Cause)
  | missingSectionHeader (key : String)
deriving DecidableEq, Repr

def LoadError.message : LoadError → String
  | file path fault => "IO error reading audit map file " ++ path ++ ": " ++ fault.message
  | malformed place cause =>
    "Error parsing audit map file: " ++ toString place.line ++ ":" ++ toString place.column ++
      " " ++ cause.message
  | missingSectionHeader key =>
    "Error parsing audit map file: option '" ++ key ++ "' is outside of any section"

/-- Case counts neither in the key of the default endpoint type nor in the names of sections. -/
def isEndpointTypeKey (key : String) : Bool :=
  key.toList.map Char.toLower = "target_endpoint_type".toList

def addSettings (add : AuditMap → String → String → AuditMap) (settings : List Ini.Setting)
    (map : AuditMap) : AuditMap :=
  settings.foldl (fun map setting => add map setting.key setting.value) map

/-- In one section the first default endpoint type counts. -/
def addDefault (settings : List Ini.Setting) (map : AuditMap) : AuditMap :=
  match settings.find? (isEndpointTypeKey ·.key) with
  | some setting => map.setDefaultEndpointType setting.value
  | none => map

def addSection (map : AuditMap) (part : Ini.Section) : Logged AuditMap :=
  let name := Text.lowercase part.name
  if name = "default" then pure (map.addDefault part.settings)
  else if name = "custom_actions" then pure (addSettings addCustomAction part.settings map)
  else if name = "path_keywords" then pure (addSettings addPathKeyword part.settings map)
  else if name = "service_endpoints" then pure (addSettings addServiceEndpoint part.settings map)
  else do
    Logged.record (.unknownSection name)
    pure map

def addSections : List Ini.Section → AuditMap → Logged AuditMap
  | [], map => pure map
  | part :: rest, map => do addSections rest (← map.addSection part)

def warned (map : AuditMap) : Logged AuditMap := ⟨map, map.warnings.map .mapWarning⟩

def ofDocument (document : Ini.Document) : Except LoadError (Logged AuditMap) :=
  match document.loose with
  | setting :: _ => .error (.missingSectionHeader setting.key)
  | [] => .ok do warned (← addSections document.sections empty)

def parse (text : String) : Except LoadError (Logged AuditMap) :=
  match Ini.read text.toList with
  | .error fault => .error (.malformed (fault.place text.toList) fault.cause)
  | .ok document => ofDocument document

def loaded (map : AuditMap) : Logged AuditMap :=
  ⟨map, [.mapLoaded map.pathKeywords.size map.customActions.size map.serviceEndpoints.size]⟩

/-- A path under which nothing stands gives the empty map, as no path does. -/
def load (path : Option String) (entry : String → FileEntry) : Except LoadError (Logged AuditMap) :=
  match path with
  | none => .ok (pure empty)
  | some path =>
    match entry path with
    | .absent => .ok ⟨empty, [.mapFileMissing]⟩
    | found =>
      match found.text with
      | .error fault => .error (.file path fault)
      | .ok text => (parse text).map fun map => do loaded (← map)

theorem load_of_file {path text : String} {entry : String → FileEntry}
    (found : entry path = .file text.toUTF8) :
    load (some path) entry = (parse text).map (fun map => do loaded (← map)) := by
  simp only [load, found, FileEntry.text_toUTF8]

end AuditMap

end CloudAudit
