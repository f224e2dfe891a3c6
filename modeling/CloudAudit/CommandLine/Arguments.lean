/-! The arguments of the command line. Options stand before what they belong to: those of the
program before the command, those of a command after it. A value stands in the next argument or,
after an equals sign or directly after a short name, in the same one. No option may be given
twice. -/
namespace CloudAudit.CommandLine

inductive Kind where
  | switch
  | text
  /-- A value that names a file is not empty. -/
  | file
deriving DecidableEq, Repr

structure Flag where
  long : String
  short : Option Char := none
  kind : Kind
deriving DecidableEq, Repr

inductive Refusal where
  | usage
  | help
deriving DecidableEq, Repr

abbrev Settings := List (String × String)

def Settings.get? (settings : Settings) (long : String) : Option String := settings.lookup long

def Settings.add (settings : Settings) (flag : Flag) (value : String) : Except Refusal Settings :=
  if (settings.get? flag.long).isSome || (flag.kind = .file && value.isEmpty) then .error .usage
  else .ok (settings ++ [(flag.long, value)])

/-- An argument that begins with a dash is a value only if it is the dash alone. -/
def looksLikeFlag (arg : String) : Bool :=
  match arg.toList with
  | '-' :: _ :: _ => true
  | _ => false

inductive Shape where
  | flag (flag : Flag) (attached : Option String)
  | help
  | unknownFlag
  | endOfFlags
  | word
deriving DecidableEq, Repr

def attachedValue? : List Char → Option String
  | [] => none
  | '=' :: value => some (String.ofList value)
  | value => some (String.ofList value)

def longShape (flags : List Flag) (text : List Char) : Shape :=
  let name := String.ofList (text.takeWhile (· ≠ '='))
  let attached := attachedValue? (text.dropWhile (· ≠ '='))
  if name = "help" then .help
  else match flags.find? (·.long = name) with
    | some flag => .flag flag attached
    | none => .unknownFlag

def shortShape (flags : List Flag) (c : Char) (rest : List Char) : Shape :=
  if c = 'h' then .help
  else match flags.find? (·.short = some c) with
    | some flag => .flag flag (attachedValue? rest)
    | none => .unknownFlag

def shapeOf (flags : List Flag) (arg : String) : Shape :=
  match arg.toList with
  | ['-', '-'] => .endOfFlags
  | '-' :: '-' :: text => longShape flags text
  | '-' :: c :: rest => shortShape flags c rest
  | _ => .word

/-- The options at the front of the arguments, the arguments after them, and whether the mark that
ends options was among them. -/
def readFlags (flags : List Flag) (settings : Settings) :
    List String → Except Refusal (Settings × List String × Bool)
  | [] => .ok (settings, [], false)
  | arg :: rest =>
    match shapeOf flags arg with
    | .word => .ok (settings, arg :: rest, false)
    | .endOfFlags => .ok (settings, rest, true)
    | .help => .error .help
    | .unknownFlag => .error .usage
    | .flag flag attached =>
      match flag.kind, attached with
      | .switch, some _ => .error .usage
      | .switch, none => do readFlags flags (← settings.add flag "") rest
      | _, some value => do readFlags flags (← settings.add flag value) rest
      | _, none =>
        match rest with
        | [] => .error .usage
        | value :: rest =>
          if looksLikeFlag value then .error .usage
          else do readFlags flags (← settings.add flag value) rest

inductive CatalogSource where
  | text (content : String)
  | file (path : String)
deriving DecidableEq, Repr

inductive Command where
  | action (method path : String) (body : Option String)
  | target (path hostUrl : String) (catalog : Option CatalogSource)
  | inspect
deriving DecidableEq, Repr

structure Invocation where
  config : Option String
  jsonLogs : Bool
  command : Command
deriving DecidableEq, Repr

def programFlags : List Flag := [⟨"config", some 'c', .file⟩, ⟨"json-logs", none, .switch⟩]

def actionFlags : List Flag :=
  [⟨"method", some 'm', .text⟩, ⟨"path", some 'p', .text⟩, ⟨"body", some 'b', .text⟩]

def targetFlags : List Flag :=
  [⟨"path", some 'p', .text⟩, ⟨"host-url", none, .text⟩, ⟨"catalog", none, .text⟩,
    ⟨"catalog-file", none, .file⟩]

def readOnlyFlags (flags : List Flag) (args : List String) : Except Refusal Settings :=
  match readFlags flags [] args with
  | .error refusal => .error refusal
  | .ok (settings, [], _) => .ok settings
  | .ok _ => .error .usage

def required (settings : Settings) (long : String) : Except Refusal String :=
  match settings.get? long with
  | some value => .ok value
  | none => .error .usage

def actionOf (args : List String) : Except Refusal Command := do
  let settings ← readOnlyFlags actionFlags args
  return .action ((settings.get? "method").getD "GET") (← required settings "path")
    (settings.get? "body")

def catalogSource (settings : Settings) : Except Refusal (Option CatalogSource) :=
  match settings.get? "catalog", settings.get? "catalog-file" with
  | some _, some _ => .error .usage
  | some content, none => .ok (some (.text content))
  | none, some path => .ok (some (.file path))
  | none, none => .ok none

def targetOf (args : List String) : Except Refusal Command := do
  let settings ← readOnlyFlags targetFlags args
  let catalog ← catalogSource settings
  return .target (← required settings "path") (← required settings "host-url") catalog

def helpOn : List String → Refusal
  | [] => .help
  | [name] => if ["action", "target", "inspect", "help"].contains name then .help else .usage
  | _ => .usage

def commandOf (name : String) (args : List String) : Except Refusal Command :=
  if name = "action" then actionOf args
  else if name = "target" then targetOf args
  else if name = "inspect" then do
    let _ ← readOnlyFlags [] args
    return .inspect
  else if name = "help" then .error (helpOn args)
  else .error .usage

def parse (args : List String) : Except Refusal Invocation :=
  match readFlags programFlags [] args with
  | .error refusal => .error refusal
  | .ok (settings, name :: rest, false) => do
    return ⟨settings.get? "config", (settings.get? "json-logs").isSome, ← commandOf name rest⟩
  | .ok _ => .error .usage

end CloudAudit.CommandLine
