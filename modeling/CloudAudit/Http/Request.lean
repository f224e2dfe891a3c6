import CloudAudit.Http.Method
import CloudAudit.Http.Uri

/-! HTTP requests. A body comes in chunks and may break off. -/
namespace CloudAudit.Http

-- one comparison of bytes, also where other libraries bring theirs
instance decidableEqBytes : DecidableEq ByteArray := ByteArray.instDecidableEq

structure Header where
  name : String
  value : ByteArray
deriving DecidableEq

structure Body where
  chunks : List ByteArray
  /-- Whether reading fails after the last chunk. -/
  breaks : Bool := false
deriving DecidableEq

structure Request where
  method : Method
  uri : Uri
  headers : List Header
  body : Body
deriving DecidableEq

def firstHeader? (headers : List Header) (name : String) : Option ByteArray :=
  (headers.find? fun header => header.name.toList.map Char.toLower = name.toList).map (·.value)

def isVisible (byte : UInt8) : Bool := byte = 0x09 || (0x20 ≤ byte && byte ≤ 0x7E)

/-- The text of a header value, if every byte of it is a tab or visible. -/
def headerText? (value : ByteArray) : Option String :=
  let bytes := value.data.toList
  if bytes.all isVisible then some (String.ofList (bytes.map fun byte => Char.ofNat byte.toNat))
  else none

namespace Body

def empty : Body := ⟨[], false⟩

def ofBytes (bytes : ByteArray) : Body := ⟨[bytes], false⟩

def join (chunks : List ByteArray) : ByteArray := chunks.foldl (· ++ ·) .empty

def bytes? (body : Body) : Option ByteArray :=
  if body.breaks then none else some (join body.chunks)

inductive Failure where
  | tooLarge
  | unreadable
deriving DecidableEq, Repr

/-- Chunks are taken while they fit into what is left of the limit. -/
def gather (breaks : Bool) (left : Nat) (taken : ByteArray) :
    List ByteArray → Except Failure ByteArray
  | [] => if breaks then .error .unreadable else .ok taken
  | chunk :: rest =>
    if left < chunk.size then .error .tooLarge
    else gather breaks (left - chunk.size) (taken ++ chunk) rest

def readUpTo (limit : Nat) (body : Body) : Except Failure ByteArray :=
  gather body.breaks limit .empty body.chunks

end Body

end CloudAudit.Http
