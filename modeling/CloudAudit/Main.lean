import CloudAudit.CommandLine.Run

open CloudAudit CommandLine

/-- What stands under a path; what cannot be opened as a file counts as a directory. -/
def readEntry (path : String) : IO FileEntry := do
  match ← (IO.FS.readBinFile path).toBaseIO with
  | .ok content => return .file content
  | .error (.noFileOrDirectory ..) => return .absent
  | .error _ => return .directory

def main (args : List String) : IO UInt32 := do
  let invocation := parse args
  let paths := invocation.toOption.elim [] (·.paths)
  let entries ← paths.mapM fun path => return (path, ← readEntry path)
  let outcome := runArguments (fun path => (entries.lookup path).getD .absent) args
  let jsonLogs := invocation.toOption.elim false (·.jsonLogs)
  for event in shown outcome.log do
    IO.eprintln (if jsonLogs then event.toJson.compact else event.line)
  IO.print outcome.output
  if !outcome.failure.isEmpty then IO.eprintln outcome.failure
  return outcome.exit.toUInt32
