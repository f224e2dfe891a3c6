import CloudAudit.AuditMap.Basic
import CloudAudit.Proofs.Text.SmallLetters
import Mathlib.Data.List.Basic

/-! Audit maps by what was written into them. Each table keeps the last value written under a key,
where keys that are lowercased to one text are one key, and no write shows in another table. -/
namespace CloudAudit

/-- The order of the keys is that of their codes, character by character. -/
theorem Table.codes_sorted (table : Table) :
    (table.entries.map fun entry => entry.1.toList.map Char.toNat).Pairwise (· < ·) := by
  rw [List.pairwise_map]
  apply table.sorted.imp
  intro left right less
  exact List.map_lt (fun _ _ below => below) (String.lt_iff.1 less)

theorem Table.insert_isEmpty (table : Table) (key value : String) :
    (table.insert key value).isEmpty = false := by
  obtain ⟨entries, sorted⟩ := table
  cases entries with
  | nil => rfl
  | cons head rest =>
    simp only [insert, isEmpty, place]
    split
    · rfl
    · split <;> rfl

namespace AuditMap

open Text (lowercase)

inductive Kind where
  | pathKeyword
  | customAction
  | serviceEndpoint
deriving DecidableEq, Repr

def add (map : AuditMap) : Kind → String → String → AuditMap
  | .pathKeyword => map.addPathKeyword
  | .customAction => map.addCustomAction
  | .serviceEndpoint => map.addServiceEndpoint

def table (map : AuditMap) : Kind → Table
  | .pathKeyword => map.pathKeywords
  | .customAction => map.customActions
  | .serviceEndpoint => map.serviceEndpoints

def find? (map : AuditMap) : Kind → String → Option String
  | .pathKeyword => map.pathKeyword?
  | .customAction => map.customAction?
  | .serviceEndpoint => map.serviceType?

inductive Write where
  | entry (kind : Kind) (key value : String)
  | defaultType (endpointType : String)
deriving DecidableEq, Repr

namespace Write

def apply (map : AuditMap) : Write → AuditMap
  | entry kind key value => map.add kind key value
  | defaultType endpointType => map.setDefaultEndpointType endpointType

def value? (kind : Kind) (key : String) : Write → Option String
  | entry other name value => if other = kind ∧ lowercase name = key then some value else none
  | defaultType _ => none

def endpointType? : Write → Option String
  | entry .. => none
  | defaultType endpointType => some endpointType

end Write

def written (writes : List Write) : AuditMap := writes.foldl Write.apply empty

theorem find?_eq_get? (map : AuditMap) (kind : Kind) (key : String) :
    map.find? kind key = (map.table kind).get? key := by
  cases kind <;> rfl

theorem table_add (map : AuditMap) (added kind : Kind) (key value : String) :
    (map.add added key value).table kind =
      if added = kind then (map.table kind).insert (lowercase key) value else map.table kind := by
  cases added <;> cases kind <;> rfl

theorem find?_apply (write : Write) (map : AuditMap) (kind : Kind) (key : String) :
    (write.apply map).find? kind key = (write.value? kind key).or (map.find? kind key) := by
  cases write with
  | defaultType endpointType => cases kind <;> rfl
  | entry added name value =>
    simp only [find?_eq_get?, Write.apply, Write.value?, table_add]
    by_cases here : added = kind
    · rw [if_pos here, Table.get?_insert]
      by_cases same : key = lowercase name
      · simp [here, same]
      · simp [same, Ne.symm same]
    · simp [here]

theorem defaultEndpointType_apply (write : Write) (map : AuditMap) :
    (write.apply map).defaultEndpointType = write.endpointType?.or map.defaultEndpointType := by
  cases write with
  | defaultType endpointType => rfl
  | entry added name value => cases added <;> rfl

theorem isEmpty_apply (write : Write) (map : AuditMap) : (write.apply map).isEmpty = false := by
  cases write with
  | defaultType endpointType => simp [Write.apply, setDefaultEndpointType, isEmpty]
  | entry added name value =>
    have filled := (map.table added).insert_isEmpty (lowercase name) value
    cases added <;> simp only [table] at filled <;>
      simp [Write.apply, add, addPathKeyword, addCustomAction, addServiceEndpoint, isEmpty, filled]

/-- A part of the map that every write sets or leaves holds what the last write to it has set. -/
theorem foldl_apply (part : AuditMap → Option String) {value? : Write → Option String}
    (step : ∀ write map, part (Write.apply map write) = (value? write).or (part map))
    (writes : List Write) (map : AuditMap) :
    part (writes.foldl Write.apply map) = (writes.reverse.findSome? value?).or (part map) := by
  induction writes generalizing map with
  | nil => rfl
  | cons write rest ih =>
    rw [List.foldl_cons, ih, step, List.reverse_cons, List.findSome?_append, Option.or_assoc,
      List.findSome?_singleton]

theorem find?_written (writes : List Write) (kind : Kind) (key : String) :
    (written writes).find? kind key = writes.reverse.findSome? (Write.value? kind key) := by
  have nothing : empty.find? kind key = none := by cases kind <;> rfl
  have last := foldl_apply (·.find? kind key) (fun write map => find?_apply write map kind key)
    writes empty
  rwa [nothing, Option.or_none] at last

theorem defaultEndpointType_written (writes : List Write) :
    (written writes).defaultEndpointType = writes.reverse.findSome? Write.endpointType? := by
  have last := foldl_apply (·.defaultEndpointType) defaultEndpointType_apply writes empty
  rwa [show empty.defaultEndpointType = none from rfl, Option.or_none] at last

theorem isEmpty_written (writes : List Write) : (written writes).isEmpty = true ↔ writes = [] := by
  constructor
  · intro nothing
    rcases List.eq_nil_or_concat' writes with none | ⟨earlier, last, rfl⟩
    · exact none
    · rw [written, List.foldl_append, List.foldl_cons, List.foldl_nil, isEmpty_apply] at nothing
      cases nothing
  · rintro rfl
    rfl

/-- What is found under a key was written under a spelling of it. -/
theorem exists_write_of_found {writes : List Write} {kind : Kind} {key value : String}
    (found : (written writes).find? kind key = some value) :
    ∃ name, .entry kind name value ∈ writes ∧ lowercase name = key := by
  rw [find?_written] at found
  obtain ⟨write, listed, wrote⟩ := List.exists_of_findSome?_eq_some found
  cases write with
  | defaultType endpointType => cases wrote
  | entry added name text =>
    rw [Write.value?] at wrote
    split at wrote
    case isTrue same =>
      obtain ⟨rfl, spelled⟩ := same
      cases wrote
      exact ⟨name, List.mem_reverse.1 listed, spelled⟩
    case isFalse => cases wrote

theorem lowercase_of_found {writes : List Write} {kind : Kind} {key value : String}
    (found : (written writes).find? kind key = some value) : lowercase key = key := by
  obtain ⟨name, _, rfl⟩ := exists_write_of_found found
  exact Text.lowercase_lowercase name

/-- A look-up finds the last value that was written under a key lowercased to the text, and the
default type is the last one that was set. Only texts that lowercasing leaves as they are stand as
keys, in the order of their codes, and only a map without any write is empty. -/
theorem written_last_wins (writes : List Write) :
    let map := written writes
    (∀ kind key, map.find? kind key = writes.reverse.findSome? (Write.value? kind key)) ∧
      map.defaultEndpointType = writes.reverse.findSome? Write.endpointType? ∧
      (∀ kind, ∀ entry ∈ (map.table kind).entries, lowercase entry.1 = entry.1) ∧
      (∀ kind key, lowercase key ≠ key → map.find? kind key = none) ∧
      (∀ kind, ((map.table kind).entries.map fun entry =>
        entry.1.toList.map Char.toNat).Pairwise (· < ·)) ∧
      (map.isEmpty = true ↔ writes = []) := by
  intro map
  refine ⟨find?_written writes, defaultEndpointType_written writes, ?_, ?_, ?_,
    isEmpty_written writes⟩
  · rintro kind ⟨key, value⟩ stored
    have found : map.find? kind key = some value := by
      rwa [find?_eq_get?, Table.get?_eq_some_iff]
    exact lowercase_of_found found
  · intro kind key capital
    rw [Option.eq_none_iff_forall_ne_some]
    intro value found
    exact capital (lowercase_of_found found)
  · exact fun kind => (map.table kind).codes_sorted

/-- The capital sigmas end their words, so three of the keys are one. -/
theorem written_last_wins_of_greek :
    let map := written [.entry .pathKeyword "ΟΔΟΣ" "road", .entry .customAction "Οδος" "walk",
      .defaultType "compute", .entry .pathKeyword "Οδος" "street", .entry .pathKeyword "οδοσ" "way"]
    map.pathKeyword? "οδος" = some "street" ∧ map.customAction? "οδος" = some "walk" ∧
      map.serviceType? "οδος" = none ∧ lowercase "ΟΔΟΣ" ≠ "ΟΔΟΣ" ∧
      map.pathKeyword? "ΟΔΟΣ" = none := by
  intro map
  obtain ⟨found, _, _, unlowered, _⟩ := written_last_wins
    [.entry .pathKeyword "ΟΔΟΣ" "road", .entry .customAction "Οδος" "walk",
      .defaultType "compute", .entry .pathKeyword "Οδος" "street", .entry .pathKeyword "οδοσ" "way"]
  have capital : lowercase "ΟΔΟΣ" ≠ "ΟΔΟΣ" := by decide +kernel
  refine ⟨?_, ?_, ?_, capital, unlowered .pathKeyword "ΟΔΟΣ" capital⟩
  · exact (found .pathKeyword "οδος").trans (by decide +kernel)
  · exact (found .customAction "οδος").trans (by decide +kernel)
  · exact (found .serviceEndpoint "οδος").trans (by decide +kernel)

end AuditMap

end CloudAudit
