import CloudAudit.Catalog.Basic
import CloudAudit.Event
import CloudAudit.NetworkLocation
import CloudAudit.Unknown

/-! The target of a request: the service it addresses and the kind of resource its path names. The
first entry of the catalog on the host of the request is selected, wherever it stands; without one
the first entry of the default type is. -/
namespace CloudAudit

structure Address where
  name : String
  url : String
deriving DecidableEq, Repr

structure Service where
  id : String
  name : String
  serviceType : String
  adminAddress : Option Address
  privateAddress : Option Address
  publicAddress : Option Address
deriving DecidableEq, Repr

structure Target where
  typeUri : String
  id : String
  name : String
  addresses : List Address
deriving DecidableEq, Repr

namespace Service

def unknown : Service := ⟨unknownText, unknownText, unknownText, none, none, none⟩

def isUnknown (service : Service) : Bool := service.serviceType = unknownText

def ofEntry (map : AuditMap) (entry : CatalogEntry) : Service :=
  let endpoint := entry.firstEndpoint
  { id := endpoint.id.getD entry.name
    name := entry.name
    serviceType := (map.serviceType? entry.serviceType).getD unknownText
    adminAddress := some ⟨"admin", endpoint.adminUrl.getD unknownText⟩
    privateAddress := some ⟨"private", endpoint.internalUrl.getD unknownText⟩
    publicAddress := some ⟨"public", endpoint.publicUrl.getD unknownText⟩ }

def addresses (service : Service) : List Address :=
  service.adminAddress.toList ++ service.privateAddress.toList ++ service.publicAddress.toList

end Service

inductive Selection where
  | byHost (entry : CatalogEntry)
  | byDefaultType (entry : CatalogEntry)
  | nothing
deriving DecidableEq, Repr

namespace Selection

def onHost (location : String) (entry : CatalogEntry) : Bool :=
  let endpoint := entry.firstEndpoint
  [endpoint.adminUrl, endpoint.publicUrl].any fun url =>
    url.bind networkLocation? = some location

def matchesHost (hostUrl : String) (entry : CatalogEntry) : Bool :=
  (networkLocation? hostUrl).any (onHost · entry)

def ofDefaultType (map : AuditMap) (entry : CatalogEntry) : Bool :=
  map.defaultEndpointType = some entry.serviceType

/-- One pass over the entries; the first entry of the default type is kept until a host matches. -/
def scan (onHost ofDefault : CatalogEntry → Bool) (kept : Option CatalogEntry) :
    List CatalogEntry → Selection
  | [] => kept.elim .nothing .byDefaultType
  | entry :: rest =>
    if onHost entry then .byHost entry
    else scan onHost ofDefault (kept.or (if ofDefault entry then some entry else none)) rest

def ofCatalog (map : AuditMap) (hostUrl : String) (catalog : Catalog) : Selection :=
  scan (matchesHost hostUrl) (ofDefaultType map) none catalog.entries

def service (map : AuditMap) : Selection → Logged Service
  | byHost entry => ⟨.ofEntry map entry, [.matchedByHost entry.name]⟩
  | byDefaultType entry => ⟨.ofEntry map entry, [.matchedByDefaultType entry.name]⟩
  | nothing => pure .unknown

end Selection

namespace AuditMap

def selectService (map : AuditMap) (hostUrl : String) (catalog : Catalog) : Logged Service :=
  (Selection.ofCatalog map hostUrl catalog).service map

/-- What a segment adds to the type URI: a keyword itself, another segment after a keyword the name
of one instance of it. -/
def component? (map : AuditMap) (previous : Option String) (segment : String) : Option String :=
  if map.isPathKeyword segment then some segment else previous.bind map.pathKeyword?

def components (map : AuditMap) (previous : Option String) : List String → List String
  | [] => []
  | segment :: rest =>
    (map.component? previous segment).toList ++ components map (some segment) rest

def typeUri (map : AuditMap) (path serviceType : String) : String :=
  let segments := (Path.pieces path).map Path.withoutJson
  serviceType ++ String.join ((map.components none segments).map ("/" ++ ·))

def targetOf (map : AuditMap) (path : String) (service : Service) : Target :=
  { typeUri :=
      if service.isUnknown then service.serviceType else map.typeUri path service.serviceType
    id := service.id
    name := service.name
    addresses := service.addresses }

def resolve (map : AuditMap) (path hostUrl : String) (catalog : Option Catalog) : Logged Target :=
  match catalog with
  | some catalog => do return map.targetOf path (← map.selectService hostUrl catalog)
  | none => do
    Logged.record .catalogMissing
    return map.targetOf path .unknown

end AuditMap

end CloudAudit
