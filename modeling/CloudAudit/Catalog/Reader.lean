import CloudAudit.Catalog.Basic
import CloudAudit.Literal.Meaning
import CloudAudit.Text.Place
import CloudAudit.Text.Quoted
import CloudAudit.Unknown

/-! Catalogs from literals. Entries and endpoints are records, or lists of their attributes in
order. Attributes are read in the order of the text and the first failure is the answer. Attributes
of other names are passed over, but what they hold has to mean something. -/
namespace CloudAudit

namespace Catalog

inductive Found where
  | unit
  | boolean (value : Bool)
  | number (value : Literal.Number)
  | string (text : String)
  | sequence
  | map
deriving DecidableEq, Repr

inductive Expected where
  | sequence
  | entry
  | endpoint
  | string
deriving DecidableEq, Repr

inductive Cause where
  | invalidType (found : Found) (expected : Expected)
  | duplicateField (name : String)
  | meaningless (fault : Literal.Fault)
deriving DecidableEq, Repr

def Found.message : Found → String
  | unit => "unit value"
  | boolean value => "boolean `" ++ (if value then "true" else "false") ++ "`"
  | number value =>
    match value with
    | .integer _ => "integer `" ++ value.text ++ "`"
    | _ => "floating point `" ++ value.text ++ "`"
  | string text => "string " ++ Text.quoted text
  | sequence => "sequence"
  | map => "map"

def Expected.message : Expected → String
  | sequence => "a sequence"
  | entry => "struct CatalogEntry"
  | endpoint => "struct EndpointUrls"
  | string => "a string"

def Cause.message : Cause → String
  | invalidType found expected =>
    "invalid type: " ++ found.message ++ ", expected " ++ expected.message
  | duplicateField name => "duplicate field `" ++ name ++ "`"
  | meaningless fault => fault.message

/-- A fault of the value or key that `source` begins with. -/
structure Fault where
  source : List Char
  cause : Cause
deriving DecidableEq, Repr

inductive Error where
  | notALiteral
  | data (place : Text.Place) (cause : Cause)
deriving DecidableEq, Repr

def Error.message : Error → String
  | notALiteral => "Malformed service catalog: not a literal"
  | data _ cause => "Malformed service catalog: " ++ cause.message

def meaning {α : Type} (source : List Char) (result : Except Literal.Fault α) : Except Fault α :=
  result.mapError fun fault => ⟨source, .meaningless fault⟩

def readKey (key : Literal.Key) : Except Fault String :=
  meaning key.source (Literal.stringOfPieces key.pieces)

def found : Literal → Except Fault Found
  | .null _ => .ok .unit
  | .bool _ value => .ok (.boolean value)
  | .number source text => .number <$> meaning source (Literal.Number.ofText text)
  | .string source pieces => .string <$> meaning source (Literal.stringOfPieces pieces)
  | .list .. => .ok .sequence
  | .record .. => .ok .map

/-- Numbers and strings are converted before they are refused. -/
def refuse {α : Type} (expected : Expected) (literal : Literal) : Except Fault α := do
  .error ⟨literal.source, .invalidType (← found literal) expected⟩

def readString : Literal → Except Fault String
  | .string source pieces => meaning source (Literal.stringOfPieces pieces)
  | literal => refuse .string literal

def readOptional : Literal → Except Fault (Option String)
  | .null _ => .ok none
  | literal => some <$> readString literal

mutual

def passOver : Literal → Except Fault Unit
  | .null _ | .bool .. => .ok ()
  | .number source text => do
    let _ ← meaning source (Literal.Number.ofText text)
  | .string source pieces => do
    let _ ← meaning source (Literal.stringOfPieces pieces)
  | .list _ items => passOverItems items
  | .record _ members => passOverMembers members

def passOverItems : List Literal → Except Fault Unit
  | [] => .ok ()
  | item :: rest => do
    passOver item
    passOverItems rest

def passOverMembers : List (Literal.Key × Literal) → Except Fault Unit
  | [] => .ok ()
  | (key, value) :: rest => do
    let _ ← readKey key
    passOver value
    passOverMembers rest

end

/-- An attribute stands once in a record; a second one is refused before its value is read. -/
def once {α : Type} (source : List Char) (name : String) (present : Option α)
    (read : Except Fault α) : Except Fault (Option α) :=
  match present with
  | some _ => .error ⟨source, .duplicateField name⟩
  | none => some <$> read

/-- The attributes of an endpoint that have been read; an attribute may be there and be null. -/
structure EndpointDraft where
  id : Option (Option String) := none
  adminUrl : Option (Option String) := none
  internalUrl : Option (Option String) := none
  publicUrl : Option (Option String) := none

def EndpointDraft.addMember (source : List Char) (draft : EndpointDraft)
    (member : Literal.Key × Literal) : Except Fault EndpointDraft := do
  let name ← readKey member.1
  let value := readOptional member.2
  if name = "id" then return { draft with id := ← once source name draft.id value }
  else if name = "adminURL" then
    return { draft with adminUrl := ← once source name draft.adminUrl value }
  else if name = "internalURL" then
    return { draft with internalUrl := ← once source name draft.internalUrl value }
  else if name = "publicURL" then
    return { draft with publicUrl := ← once source name draft.publicUrl value }
  else
    passOver member.2
    return draft

def EndpointDraft.finish (draft : EndpointDraft) : Endpoint :=
  ⟨draft.id.join, draft.adminUrl.join, draft.internalUrl.join, draft.publicUrl.join⟩

def readNext {α : Type} (read : Literal → Except Fault α) (default : α) (items : List Literal) :
    Except Fault (α × List Literal) :=
  match items with
  | [] => .ok (default, [])
  | item :: rest => do return (← read item, rest)

def endpointOfItems (items : List Literal) : Except Fault Endpoint := do
  let (id, items) ← readNext readOptional none items
  let (adminUrl, items) ← readNext readOptional none items
  let (internalUrl, items) ← readNext readOptional none items
  let (publicUrl, _) ← readNext readOptional none items
  return ⟨id, adminUrl, internalUrl, publicUrl⟩

def readEndpoint : Literal → Except Fault Endpoint
  | .record source members => do
    return (← members.foldlM (EndpointDraft.addMember source) {}).finish
  | .list _ items => endpointOfItems items
  | literal => refuse .endpoint literal

def readEndpoints : Literal → Except Fault (List Endpoint)
  | .list _ items => items.mapM readEndpoint
  | literal => refuse .sequence literal

structure EntryDraft where
  serviceType : Option String := none
  name : Option String := none
  endpoints : Option (List Endpoint) := none

def EntryDraft.addMember (source : List Char) (draft : EntryDraft)
    (member : Literal.Key × Literal) : Except Fault EntryDraft := do
  let name ← readKey member.1
  if name = "type" then
    return { draft with serviceType := ← once source name draft.serviceType (readString member.2) }
  else if name = "name" then
    return { draft with name := ← once source name draft.name (readString member.2) }
  else if name = "endpoints" then
    return { draft with endpoints := ← once source name draft.endpoints (readEndpoints member.2) }
  else
    passOver member.2
    return draft

def EntryDraft.finish (draft : EntryDraft) : CatalogEntry :=
  ⟨draft.serviceType.getD unknownText, draft.name.getD unknownText, draft.endpoints.getD []⟩

def entryOfItems (items : List Literal) : Except Fault CatalogEntry := do
  let (serviceType, items) ← readNext readString unknownText items
  let (name, items) ← readNext readString unknownText items
  let (endpoints, _) ← readNext readEndpoints [] items
  return ⟨serviceType, name, endpoints⟩

def readEntry : Literal → Except Fault CatalogEntry
  | .record source members => do
    return (← members.foldlM (EntryDraft.addMember source) {}).finish
  | .list _ items => entryOfItems items
  | literal => refuse .entry literal

def ofLiteral : Literal → Except Fault Catalog
  | .list _ items => Catalog.mk <$> items.mapM readEntry
  | literal => refuse .sequence literal

def parse (text : String) : Except Error Catalog :=
  match Literal.read? text.toList with
  | none => .error .notALiteral
  | some literal =>
    (ofLiteral literal).mapError fun fault =>
      .data (Text.Place.ofRest text.toList fault.source) fault.cause

end Catalog

end CloudAudit
