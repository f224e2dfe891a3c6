/-! Service catalogs: the services a token is good for, with their addresses. Any attribute may be
missing. -/
namespace CloudAudit

structure Endpoint where
  id : Option String := none
  adminUrl : Option String := none
  internalUrl : Option String := none
  publicUrl : Option String := none
deriving DecidableEq, Repr

structure CatalogEntry where
  serviceType : String
  name : String
  endpoints : List Endpoint
deriving DecidableEq, Repr

structure Catalog where
  entries : List CatalogEntry
deriving DecidableEq, Repr

/-- The only endpoint of an entry that is looked at; an entry without one has nothing in it. -/
def CatalogEntry.firstEndpoint (entry : CatalogEntry) : Endpoint := entry.endpoints.headD {}

def Catalog.isEmpty (catalog : Catalog) : Bool := catalog.entries.isEmpty

end CloudAudit
