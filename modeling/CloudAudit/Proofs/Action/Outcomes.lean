import CloudAudit.Proofs.Action.Verb
import CloudAudit.Proofs.Json.Printed
import CloudAudit.Proofs.Json.Valid
import CloudAudit.Proofs.Target.Collection
import Mathlib.Data.List.Nodup
import Mathlib.Data.List.Perm.Subperm

/-! When each action comes out. The entries for custom actions come first; where there is none, the
method, the segment and the body of a request decide, and of the map only whether the segment is a
keyword. -/
namespace CloudAudit

namespace Path

def unclosed (path : String) : String := String.ofList (withoutEnding ['/'] path.toList)

end Path

def Json.nested : Nat → Json
  | 0 => .array []
  | level + 1 => .array [nested level]

namespace Action

section

variable {map : AuditMap} {segment : String} {body : Option ByteArray} {verb : Http.Verb}
  {action : Action}

end

end Action

namespace AuditMap

end AuditMap

end CloudAudit
