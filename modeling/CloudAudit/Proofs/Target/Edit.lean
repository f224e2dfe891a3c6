import CloudAudit.Proofs.Target.Selected
import Mathlib.Logic.Relation

/-! Edits of a catalog that no target shows. An entry counts by where it stands, by its type and by
the locations of its admin and public addresses; only of the selected one is anything else looked
at. -/
namespace CloudAudit

structure CatalogEntry.SamePlaces (left right : CatalogEntry) : Prop where
  serviceType : right.serviceType = left.serviceType
  adminUrl : right.firstEndpoint.adminUrl.bind networkLocation? =
    left.firstEndpoint.adminUrl.bind networkLocation?
  publicUrl : right.firstEndpoint.publicUrl.bind networkLocation? =
    left.firstEndpoint.publicUrl.bind networkLocation?

inductive Edit (map : AuditMap) (hostUrl : String) : List CatalogEntry → List CatalogEntry → Prop
  /-- An entry that neither the host nor the default type leads to comes in anywhere. -/
  | stranger (before after : List CatalogEntry) {entry : CatalogEntry}
    (elsewhere : ¬ entry.AtHost hostUrl) (otherType : ¬ entry.OfDefaultType map) :
    Edit map hostUrl (before ++ after) (before ++ entry :: after)
  /-- Any entry comes in behind one at the host. -/
  | behindHost (before between after : List CatalogEntry) {matched : CatalogEntry}
    (entry : CatalogEntry) (atHost : matched.AtHost hostUrl) :
    Edit map hostUrl (before ++ matched :: (between ++ after))
      (before ++ matched :: (between ++ entry :: after))
  | furtherEndpoints (before after : List CatalogEntry) (serviceType name : String)
    (first : Endpoint) (rest others : List Endpoint) :
    Edit map hostUrl (before ++ ⟨serviceType, name, first :: rest⟩ :: after)
      (before ++ ⟨serviceType, name, first :: others⟩ :: after)
  /-- An entry that is not selected gets another name, other identities and other addresses, if they
  are at the same locations. -/
  | unselected (before after : List CatalogEntry) {entry other : CatalogEntry}
    (same : entry.SamePlaces other) (passed : ¬ Selects map hostUrl before entry after) :
    Edit map hostUrl (before ++ entry :: after) (before ++ other :: after)
  /-- Neighbours change places where no entry is at the host. -/
  | swap (before after : List CatalogEntry) {left right : CatalogEntry}
    (nowhere : ∀ entry ∈ before ++ left :: right :: after, ¬ entry.AtHost hostUrl)
    (notBoth : ¬ (left.OfDefaultType map ∧ right.OfDefaultType map)) :
    Edit map hostUrl (before ++ left :: right :: after) (before ++ right :: left :: after)

namespace Selection

theorem find?_between (p : CatalogEntry → Bool) (before after : List CatalogEntry)
    (entry : CatalogEntry) :
    (before ++ entry :: after).find? p =
      (before.find? p).or (if p entry then some entry else after.find? p) := by
  rw [List.find?_append, List.find?_cons]
  cases p entry <;> rfl

theorem find?_behind {p : CatalogEntry → Bool} {found : CatalogEntry} (here : p found = true)
    (before after : List CatalogEntry) :
    (before ++ found :: after).find? p = (before.find? p).or (some found) := by
  rw [find?_between, if_pos here]

theorem find?_insert {p : CatalogEntry → Bool} {entry : CatalogEntry} (other : p entry = false)
    (before after : List CatalogEntry) :
    (before ++ entry :: after).find? p = (before ++ after).find? p := by
  rw [find?_between, other, List.find?_append]
  rfl

theorem find?_swap {p : CatalogEntry → Bool} {left right : CatalogEntry}
    (notBoth : ¬ (p left = true ∧ p right = true)) (before after : List CatalogEntry) :
    (before ++ right :: left :: after).find? p = (before ++ left :: right :: after).find? p := by
  cases atLeft : p left with
  | true =>
    have atRight : p right = false := Bool.eq_false_iff.2 fun also => notBoth ⟨atLeft, also⟩
    rw [find?_insert atRight, find?_behind atLeft, find?_behind atLeft]
  | false =>
    have behind := find?_insert atLeft (before ++ [right]) after
    rw [List.append_assoc, List.append_assoc, List.singleton_append, List.singleton_append]
      at behind
    rw [find?_insert atLeft before, behind]

/-- What is taken from the first entry with a property stays, when another with the same property
stands in for one that is not the first or from which the same is taken. -/
theorem map_find?_replace {p : CatalogEntry → Bool} {has : CatalogEntry → Prop}
    (decides : ∀ entry, p entry = true ↔ has entry) {α : Type} {taken : CatalogEntry → α}
    {before after : List CatalogEntry} {entry other : CatalogEntry} (same : p other = p entry)
    (seen : First has before entry → taken other = taken entry) :
    ((before ++ other :: after).find? p).map taken =
      ((before ++ entry :: after).find? p).map taken := by
  rw [find?_between, find?_between, same]
  cases earlier : before.find? p with
  | some found => rfl
  | none =>
    cases here : p entry with
    | false => rfl
    | true =>
      exact congrArg some (seen ⟨(decides entry).1 here, (find?_eq_none_iff_none decides).1 earlier⟩)

/-- A selection rests on the first entry at the host and, only where there is none, on the first one
of the default type; of either it shows the service. -/
theorem selectService_congr {map : AuditMap} {hostUrl : String} {entries others : List CatalogEntry}
    (byHost : (others.find? (matchesHost hostUrl)).map (Service.ofEntry map) =
      (entries.find? (matchesHost hostUrl)).map (Service.ofEntry map))
    (byDefaultType : entries.find? (matchesHost hostUrl) = none →
      (others.find? (ofDefaultType map)).map (Service.ofEntry map) =
        (entries.find? (ofDefaultType map)).map (Service.ofEntry map)) :
    map.selectService hostUrl ⟨others⟩ = map.selectService hostUrl ⟨entries⟩ := by
  have named {left right : CatalogEntry} (same : Service.ofEntry map left = .ofEntry map right) :
      left.name = right.name := congrArg Service.name same
  rw [AuditMap.selectService, AuditMap.selectService, ofCatalog_eq_searches, ofCatalog_eq_searches]
  cases atHost : entries.find? (matchesHost hostUrl) with
  | some entry =>
    rw [atHost] at byHost
    obtain ⟨other, found, same⟩ := Option.map_eq_some_iff.1 byHost
    simp only [found, Option.elim_some, service, same, named same]
  | none =>
    rw [atHost, Option.map_none, Option.map_eq_none_iff] at byHost
    have byType := byDefaultType atHost
    rw [byHost]
    cases ofType : entries.find? (ofDefaultType map) with
    | some entry =>
      rw [ofType] at byType
      obtain ⟨other, found, same⟩ := Option.map_eq_some_iff.1 byType
      simp only [found, Option.elim_some, Option.elim_none, service, same, named same]
    | none =>
      rw [ofType, Option.map_none, Option.map_eq_none_iff] at byType
      rw [byType]

end Selection

open Selection

theorem CatalogEntry.SamePlaces.matchesHost {left right : CatalogEntry}
    (same : left.SamePlaces right) (hostUrl : String) :
    matchesHost hostUrl right = matchesHost hostUrl left := by
  simp only [Selection.matchesHost, onHost, List.any_cons, same.adminUrl, same.publicUrl]

theorem CatalogEntry.SamePlaces.ofDefaultType {left right : CatalogEntry}
    (same : left.SamePlaces right) (map : AuditMap) :
    ofDefaultType map right = ofDefaultType map left := by
  rw [Selection.ofDefaultType, Selection.ofDefaultType, same.serviceType]

theorem Edit.selectService {map : AuditMap} {hostUrl : String} {entries others : List CatalogEntry}
    (edit : Edit map hostUrl entries others) :
    map.selectService hostUrl ⟨others⟩ = map.selectService hostUrl ⟨entries⟩ := by
  have atHost := matchesHost_iff hostUrl
  have ofType := ofDefaultType_iff map
  cases edit with
  | stranger before after elsewhere otherType =>
    rw [← atHost, Bool.not_eq_true] at elsewhere
    rw [← ofType, Bool.not_eq_true] at otherType
    apply selectService_congr
    · rw [find?_insert elsewhere]
    · intro _
      rw [find?_insert otherType]
  | behindHost before between after entry matched =>
    have here := (atHost _).2 matched
    -- the search for the host ends before it comes to the new entry
    apply selectService_congr
    · rw [find?_behind here, find?_behind here]
    · intro nowhere
      rw [find?_behind here, Option.or_eq_none_iff] at nowhere
      cases nowhere.2
  | furtherEndpoints before after serviceType name first rest others =>
    apply selectService_congr
    · exact map_find?_replace atHost rfl fun _ => rfl
    · exact fun _ => map_find?_replace ofType rfl fun _ => rfl
  | unselected before after same passed =>
    apply selectService_congr
    · apply map_find?_replace atHost (same.matchesHost hostUrl)
      exact fun first => absurd (.byHost first) passed
    · intro nowhere
      apply map_find?_replace ofType (same.ofDefaultType map)
      have none := (find?_eq_none_iff_none atHost).1 nowhere
      exact fun first => absurd (.byDefaultType none first) passed
  | @swap before after left right nowhere notBoth =>
    have swapped : ∀ entry ∈ before ++ right :: left :: after, ¬ entry.AtHost hostUrl := by
      intro entry member
      apply nowhere entry
      simp only [List.mem_append, List.mem_cons] at member ⊢
      tauto
    apply selectService_congr
    · rw [(find?_eq_none_iff_none atHost).2 nowhere, (find?_eq_none_iff_none atHost).2 swapped]
    · intro _
      rw [← ofType, ← ofType] at notBoth
      rw [find?_swap notBoth]

/-- Catalogs that differ by such edits, made or taken back one after the other, give one target and
one log. -/
theorem AuditMap.resolve_of_edits (map : AuditMap) (path hostUrl : String)
    {entries others : List CatalogEntry}
    (edits : Relation.EqvGen (Edit map hostUrl) entries others) :
    map.resolve path hostUrl (some ⟨others⟩) = map.resolve path hostUrl (some ⟨entries⟩) := by
  have same : map.selectService hostUrl ⟨others⟩ = map.selectService hostUrl ⟨entries⟩ := by
    induction edits with
    | rel entries others edit => exact edit.selectService
    | refl entries => rfl
    | symm entries others _ ih => exact ih.symm
    | trans entries middle others _ _ first second => exact second.trans first
  rw [resolve, resolve, same]

/-- Before the entry at the host one of the default type takes on its name and location for its
private address, and behind it another one at the host comes in. -/
theorem AuditMap.resolve_of_edits_around_nova :
    let map := empty.setDefaultEndpointType "image"
    let glance : CatalogEntry := ⟨"image", "glance", [{ publicUrl := some "http://glance/v2" }]⟩
    let renamed : CatalogEntry := ⟨"image", "nova",
      [⟨some "7", some "glance", some "http://nova:8774", some "https://glance?v3"⟩]⟩
    let nova : CatalogEntry := ⟨"compute", "nova", [{ adminUrl := some "http://nova:8774/v2" }]⟩
    let rival : CatalogEntry := ⟨"image", "rival", [{ publicUrl := some "//nova:8774" }]⟩
    Relation.EqvGen (Edit map "http://nova:8774") [glance, nova] [renamed, nova, rival] ∧
      map.resolve "/servers" "http://nova:8774" (some ⟨[renamed, nova, rival]⟩) =
        map.resolve "/servers" "http://nova:8774" (some ⟨[glance, nova]⟩) := by
  intro map glance renamed nova rival
  have first : Edit map "http://nova:8774" [glance, nova] [renamed, nova] :=
    .unselected [] [nova] (by constructor <;> decide +kernel) (by decide +kernel)
  have second : Edit map "http://nova:8774" [renamed, nova] [renamed, nova, rival] :=
    .behindHost [renamed] [] [] rival (by decide +kernel)
  have edits := (Relation.EqvGen.rel _ _ first).trans _ _ _ (.rel _ _ second)
  exact ⟨edits, map.resolve_of_edits "/servers" "http://nova:8774" edits⟩

end CloudAudit
