import CloudAudit.Audit
import CloudAudit.AuditMap.Load
import CloudAudit.CommandLine.Arguments
import CloudAudit.CommandLine.Output

/-! Running the command line on what stands under the paths it names. -/
namespace CloudAudit.CommandLine

structure Outcome where
  exit : Nat
  output : String := ""
  log : List Event := []
  failure : String := ""
deriving DecidableEq, Repr

def usageText : String :=
  "Usage: [--config FILE] [--json-logs] action --path PATH [--method METHOD] [--body BODY]\n" ++
  "       [--config FILE] [--json-logs] target --path PATH --host-url URL " ++
  "[--catalog TEXT | --catalog-file FILE]\n" ++
  "       [--config FILE] [--json-logs] inspect\n"

def CatalogSource.read (entry : String → FileEntry) : CatalogSource → Except FileFault String
  | text content => .ok content
  | file path => (entry path).text

def runAction (map : AuditMap) (method path : String) (body : Option String) :
    Except String (Logged String) :=
  match Http.Method.ofString? method with
  | none => .error "invalid HTTP method"
  | some method => .ok do
    let action ← map.action { method, path, hostUrl := "", body := body.map String.toUTF8 }
    return action.text ++ "\n"

/-- The catalog is trimmed before it is read. -/
def runTarget (map : AuditMap) (path hostUrl : String) (catalog : Option String) :
    Logged String := do
  let target ← map.target
    { method := .get, path, hostUrl, serviceCatalog := catalog.map Text.trim }
  return target.toJson.pretty ++ "\n"

def runCommand (entry : String → FileEntry) (map : AuditMap) :
    Command → Except String (Logged String)
  | .action method path body => runAction map method path body
  | .target path hostUrl none => .ok (runTarget map path hostUrl none)
  | .target path hostUrl (some source) =>
    match source.read entry with
    | .ok text => .ok (runTarget map path hostUrl (some text))
    | .error fault => .error fault.message
  | .inspect => .ok (pure (map.toJson.pretty ++ "\n"))

def run (entry : String → FileEntry) (invocation : Invocation) : Outcome :=
  match AuditMap.load invocation.config entry with
  | .error error => { exit := 1, failure := error.message }
  | .ok map =>
    match runCommand entry map.value invocation.command with
    | .error failure => { exit := 1, log := map.log, failure }
    | .ok output => { exit := 0, output := output.value, log := map.log ++ output.log }

def runArguments (entry : String → FileEntry) (args : List String) : Outcome :=
  match parse args with
  | .error .help => { exit := 0, output := usageText }
  | .error .usage => { exit := 2, failure := usageText }
  | .ok invocation => run entry invocation

def shown (log : List Event) : List Event := log.filter (·.level ≠ .debug)

def Invocation.paths (invocation : Invocation) : List String :=
  invocation.config.toList ++
    match invocation.command with
    | .target _ _ (some (.file path)) => [path]
    | _ => []

end CloudAudit.CommandLine
