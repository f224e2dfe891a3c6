import CloudAudit.Proofs.Target.Selection

/-! Which entry of a catalog is selected, said by where it stands: it is the first at the host of
the request or, where no entry is at that host, the first of the default type. -/
namespace CloudAudit

structure First (has : CatalogEntry → Prop) (before : List CatalogEntry) (entry : CatalogEntry) :
    Prop where
  here : has entry
  notBefore : ∀ other ∈ before, ¬ has other

instance (has : CatalogEntry → Prop) [DecidablePred has] (before : List CatalogEntry)
    (entry : CatalogEntry) : Decidable (First has before entry) :=
  decidable_of_iff (has entry ∧ ∀ other ∈ before, ¬ has other)
    ⟨fun both => ⟨both.1, both.2⟩, fun first => ⟨first.here, first.notBefore⟩⟩

namespace CatalogEntry

def AtHost (hostUrl : String) (entry : CatalogEntry) : Prop :=
  ∃ location ∈ entry.locations, networkLocation? hostUrl = some location

instance (hostUrl : String) : DecidablePred (AtHost hostUrl) :=
  fun _ => inferInstanceAs (Decidable (∃ _ ∈ _, _))

def OfDefaultType (map : AuditMap) (entry : CatalogEntry) : Prop :=
  map.defaultEndpointType = some entry.serviceType

instance (map : AuditMap) : DecidablePred (OfDefaultType map) :=
  fun _ => inferInstanceAs (Decidable (_ = _))

end CatalogEntry

inductive Selects (map : AuditMap) (hostUrl : String) (before : List CatalogEntry)
    (entry : CatalogEntry) (after : List CatalogEntry) : Prop
  | byHost (first : First (·.AtHost hostUrl) before entry)
  | byDefaultType (nowhere : ∀ other ∈ before ++ entry :: after, ¬ other.AtHost hostUrl)
    (first : First (·.OfDefaultType map) before entry)

instance (map : AuditMap) (hostUrl : String) (before : List CatalogEntry) (entry : CatalogEntry)
    (after : List CatalogEntry) : Decidable (Selects map hostUrl before entry after) :=
  decidable_of_iff (First (·.AtHost hostUrl) before entry ∨
      (∀ other ∈ before ++ entry :: after, ¬ other.AtHost hostUrl) ∧
        First (·.OfDefaultType map) before entry)
    ⟨fun either => either.elim .byHost fun ⟨nowhere, first⟩ => .byDefaultType nowhere first,
      fun | .byHost first => .inl first
          | .byDefaultType nowhere first => .inr ⟨nowhere, first⟩⟩

namespace Selection

theorem matchesHost_iff (hostUrl : String) (entry : CatalogEntry) :
    matchesHost hostUrl entry = true ↔ entry.AtHost hostUrl := by
  simp only [CatalogEntry.AtHost, mem_locations]
  cases host : networkLocation? hostUrl with
  | none => simp [matchesHost, host]
  | some location => simp [matchesHost, onHost, host]

theorem ofDefaultType_iff (map : AuditMap) (entry : CatalogEntry) :
    ofDefaultType map entry = true ↔ entry.OfDefaultType map := decide_eq_true_iff

theorem find?_eq_some_iff_first {p : CatalogEntry → Bool} {has : CatalogEntry → Prop}
    (decides : ∀ entry, p entry = true ↔ has entry) {entries : List CatalogEntry}
    {entry : CatalogEntry} :
    entries.find? p = some entry ↔
      ∃ before after, entries = before ++ entry :: after ∧ First has before entry := by
  rw [List.find?_eq_some_iff_append]
  constructor
  · rintro ⟨here, before, after, cut, none⟩
    refine ⟨before, after, cut, (decides entry).1 here, fun other earlier => ?_⟩
    have passed := none other earlier
    rwa [Bool.not_eq_true', ← Bool.not_eq_true, decides] at passed
  · rintro ⟨before, after, cut, first⟩
    refine ⟨(decides entry).2 first.here, before, after, cut, fun other earlier => ?_⟩
    rw [Bool.not_eq_true', ← Bool.not_eq_true, decides]
    exact first.notBefore other earlier

theorem find?_eq_none_iff_none {p : CatalogEntry → Bool} {has : CatalogEntry → Prop}
    (decides : ∀ entry, p entry = true ↔ has entry) {entries : List CatalogEntry} :
    entries.find? p = none ↔ ∀ entry ∈ entries, ¬ has entry := by
  simp only [List.find?_eq_none, decides]

theorem ofCatalog_eq_byHost_iff {map : AuditMap} {hostUrl : String} {catalog : Catalog}
    {entry : CatalogEntry} :
    ofCatalog map hostUrl catalog = .byHost entry ↔
      ∃ before after, catalog.entries = before ++ entry :: after ∧
        First (·.AtHost hostUrl) before entry := by
  rw [← find?_eq_some_iff_first (matchesHost_iff hostUrl), ofCatalog_eq_searches]
  cases catalog.entries.find? (matchesHost hostUrl) with
  | some other => simp
  | none => cases catalog.entries.find? (ofDefaultType map) <;> simp

theorem ofCatalog_eq_byDefaultType_iff {map : AuditMap} {hostUrl : String} {catalog : Catalog}
    {entry : CatalogEntry} :
    ofCatalog map hostUrl catalog = .byDefaultType entry ↔
      (∀ other ∈ catalog.entries, ¬ other.AtHost hostUrl) ∧
        ∃ before after, catalog.entries = before ++ entry :: after ∧
          First (·.OfDefaultType map) before entry := by
  rw [← find?_eq_some_iff_first (ofDefaultType_iff map),
    ← find?_eq_none_iff_none (matchesHost_iff hostUrl), ofCatalog_eq_searches]
  cases catalog.entries.find? (matchesHost hostUrl) with
  | some other => simp
  | none => cases catalog.entries.find? (ofDefaultType map) <;> simp

theorem ofCatalog_eq_nothing_iff {map : AuditMap} {hostUrl : String} {catalog : Catalog} :
    ofCatalog map hostUrl catalog = .nothing ↔
      (∀ entry ∈ catalog.entries, ¬ entry.AtHost hostUrl) ∧
        ∀ entry ∈ catalog.entries, ¬ entry.OfDefaultType map := by
  rw [← find?_eq_none_iff_none (matchesHost_iff hostUrl),
    ← find?_eq_none_iff_none (ofDefaultType_iff map), ofCatalog_eq_searches]
  cases catalog.entries.find? (matchesHost hostUrl) with
  | some entry => simp
  | none => cases catalog.entries.find? (ofDefaultType map) <;> simp

def chosen? : Selection → Option CatalogEntry
  | byHost entry => some entry
  | byDefaultType entry => some entry
  | nothing => none

theorem chosen?_ofCatalog_iff {map : AuditMap} {hostUrl : String} {catalog : Catalog}
    {entry : CatalogEntry} :
    (ofCatalog map hostUrl catalog).chosen? = some entry ↔
      ∃ before after, catalog.entries = before ++ entry :: after ∧
        Selects map hostUrl before entry after := by
  constructor
  · intro selected
    cases found : ofCatalog map hostUrl catalog with
    | nothing => simp [found, chosen?] at selected
    | byHost other =>
      obtain rfl : other = entry := by simpa [found, chosen?] using selected
      obtain ⟨before, after, cut, first⟩ := ofCatalog_eq_byHost_iff.1 found
      exact ⟨before, after, cut, .byHost first⟩
    | byDefaultType other =>
      obtain rfl : other = entry := by simpa [found, chosen?] using selected
      obtain ⟨nowhere, before, after, cut, first⟩ := ofCatalog_eq_byDefaultType_iff.1 found
      exact ⟨before, after, cut, .byDefaultType (cut ▸ nowhere) first⟩
  · rintro ⟨before, after, cut, selects⟩
    cases selects with
    | byHost first => rw [ofCatalog_eq_byHost_iff.2 ⟨before, after, cut, first⟩, chosen?]
    | byDefaultType nowhere first =>
      rw [ofCatalog_eq_byDefaultType_iff.2 ⟨cut ▸ nowhere, before, after, cut, first⟩, chosen?]

end Selection

end CloudAudit
