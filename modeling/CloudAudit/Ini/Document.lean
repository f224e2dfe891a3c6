/-! Documents of sections and settings. Repeated names and keys are all kept, in the order of the
text. -/
namespace CloudAudit.Ini

structure Setting where
  key : String
  value : String
deriving DecidableEq, Repr

structure Section where
  name : String
  settings : List Setting
deriving DecidableEq, Repr

/-- The settings before the first section header are loose. -/
structure Document where
  loose : List Setting
  sections : List Section
deriving DecidableEq, Repr

inductive Item where
  | header (name : String)
  | setting (content : Setting)
deriving DecidableEq, Repr

def Document.ofItems : List Item → Document
  | [] => ⟨[], []⟩
  | .header name :: rest =>
    let document := ofItems rest
    ⟨[], ⟨name, document.loose⟩ :: document.sections⟩
  | .setting content :: rest =>
    let document := ofItems rest
    { document with loose := content :: document.loose }

end CloudAudit.Ini
