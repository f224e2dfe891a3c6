import CloudAudit.Admission
import CloudAudit.CommandLine.Folder
import CloudAudit.Main
import CloudAudit.Proofs.Target.Selection
import CloudAudit.Proofs.Target.TypeUri
import CloudAudit.Proofs.AuditMap.Meaning
import CloudAudit.Proofs.Admission
import CloudAudit.Proofs.Outline.Document
import CloudAudit.Proofs.Outline.Layout
import CloudAudit.Proofs.Json.Script
import CloudAudit.Proofs.Json.Integer
import CloudAudit.Proofs.Action.Verb
import CloudAudit.Proofs.Json.Printed
import CloudAudit.Proofs.Literal.Script
import CloudAudit.Proofs.Catalog.Document
import CloudAudit.Proofs.Catalog.Reading
import CloudAudit.Proofs.Action.Flagged
import CloudAudit.Proofs.Catalog.Acceptance
import CloudAudit.Proofs.Json.LaidOut
import CloudAudit.Proofs.Ini.Step
import CloudAudit.Proofs.AuditMap.Values
import CloudAudit.Proofs.Ini.Stray
import CloudAudit.Proofs.Text.Lowercase
import CloudAudit.Proofs.Action.Custom
import CloudAudit.Proofs.Action.Segment
import CloudAudit.Proofs.Target.Collection
import CloudAudit.Proofs.Json.Numeral
import CloudAudit.Proofs.Json.Spelling
import CloudAudit.Proofs.Json.Consumed
import CloudAudit.Proofs.Json.Valid
import CloudAudit.Proofs.Action.Outcomes
import CloudAudit.Proofs.AuditMap.Writes
import CloudAudit.Proofs.Target.Host
import CloudAudit.Proofs.Target.Edit
import CloudAudit.Proofs.Target.Shape
import CloudAudit.Proofs.AuditMap.Keys
import CloudAudit.Proofs.Action.Dead
import CloudAudit.Proofs.AuditMap.Loading
import CloudAudit.Proofs.Catalog.Extension
import CloudAudit.Proofs.AuditMap.Warnings
import CloudAudit.Proofs.Target.Fallback
import CloudAudit.Proofs.Target.Blank
import CloudAudit.Proofs.Target.Events
import CloudAudit.Proofs.Influence
import CloudAudit.Proofs.CommandLine.Output
import CloudAudit.Proofs.Action.Cut
import CloudAudit.Proofs.CommandLine.Target
