import CloudAudit.Target
import Mathlib.Data.List.Forall2

/-! Type URIs over the segments of a path. What a segment adds depends on itself and on the keyword
before it alone, so a path may be cut at any slash, and of a segment that is no keyword only its
place counts. -/
namespace CloudAudit

namespace Path

def segments (path : String) : List String := (pieces path).map withoutJson

theorem segments_ne_nil (path : String) : segments path ≠ [] := by
  simp [segments, pieces_ne_nil]

theorem segments_append (p q : String) : segments (p ++ "/" ++ q) = segments p ++ segments q := by
  rw [segments, pieces_append, List.map_append, segments, segments]

end Path

namespace AuditMap

def joined (components : List String) : String := String.join (components.map ("/" ++ ·))

theorem joined_append (left right : List String) :
    joined (left ++ right) = joined left ++ joined right := by
  simp [joined]

theorem typeUri_eq_joined (map : AuditMap) (path serviceType : String) :
    map.typeUri path serviceType =
      serviceType ++ joined (map.components none (Path.segments path)) := rfl

theorem components_append (map : AuditMap) (previous : Option String) (left right : List String) :
    map.components previous (left ++ right) =
      map.components previous left ++ map.components (left.getLast?.or previous) right := by
  induction left generalizing previous with
  | nil => rfl
  | cons segment rest ih =>
    rw [List.cons_append, components, ih, components, List.append_assoc]
    cases rest <;> rfl

/-- What stands at the seam of two paths: the name of an instance, when a keyword ends the first
path and none begins the second. -/
def bridge (map : AuditMap) (last first : String) : String :=
  match map.pathKeyword? last with
  | none => ""
  | some keyword => if map.isPathKeyword first then "" else "/" ++ keyword

theorem components_after (map : AuditMap) (last first : String) (rest : List String) :
    joined (map.components (some last) (first :: rest)) =
      map.bridge last first ++ joined (map.components none (first :: rest)) := by
  simp only [components, joined_append, component?, bridge, Option.bind_some, Option.bind_none]
  cases keyword : map.pathKeyword? last <;> cases known : map.isPathKeyword first <;>
    simp [joined]

/-- The type URI of a path that is cut at a slash. -/
theorem typeUri_append (map : AuditMap) (p q serviceType : String) :
    map.typeUri (p ++ "/" ++ q) serviceType =
      map.typeUri p serviceType ++
        map.bridge ((Path.segments p).getLast (Path.segments_ne_nil p))
          ((Path.segments q).head (Path.segments_ne_nil q)) ++
        map.typeUri q "" := by
  obtain ⟨first, rest, begins⟩ := List.exists_cons_of_ne_nil (Path.segments_ne_nil q)
  have ends := List.getLast?_eq_some_getLast (Path.segments_ne_nil p)
  rw [typeUri_eq_joined, Path.segments_append, components_append, joined_append, ends,
    Option.some_or]
  simp only [begins, List.head_cons, components_after, typeUri_eq_joined, String.empty_append,
    String.append_assoc]

theorem isPathKeyword_eq_false_iff (map : AuditMap) (segment : String) :
    map.isPathKeyword segment = false ↔ map.pathKeyword? segment = none := by
  simp [isPathKeyword, Table.contains, pathKeyword?]

def Indistinct (map : AuditMap) (left right : String) : Prop :=
  left = right ∨ map.isPathKeyword left = false ∧ map.isPathKeyword right = false

instance (map : AuditMap) (left right : String) : Decidable (map.Indistinct left right) :=
  inferInstanceAs (Decidable (_ ∨ _))

theorem Indistinct.keyword {map : AuditMap} {left right : String}
    (indistinct : map.Indistinct left right) :
    map.pathKeyword? left = map.pathKeyword? right := by
  rcases indistinct with rfl | ⟨noLeft, noRight⟩
  · rfl
  · rw [(map.isPathKeyword_eq_false_iff left).1 noLeft,
      (map.isPathKeyword_eq_false_iff right).1 noRight]

theorem Indistinct.component {map : AuditMap} {left right : String}
    (indistinct : map.Indistinct left right) {before after : Option String}
    (same : before.bind map.pathKeyword? = after.bind map.pathKeyword?) :
    map.component? before left = map.component? after right := by
  rcases indistinct with rfl | ⟨noLeft, noRight⟩
  · rw [component?, component?, same]
  · simp only [component?, noLeft, noRight, same, Bool.false_eq_true, if_false]

theorem components_indistinct (map : AuditMap) {before after : Option String}
    {left right : List String} (indistinct : List.Forall₂ map.Indistinct left right)
    (same : before.bind map.pathKeyword? = after.bind map.pathKeyword?) :
    map.components before left = map.components after right := by
  -- the two runs may hold different segments, but the same keyword for an instance
  induction indistinct generalizing before after with
  | nil => rfl
  | @cons first second _ _ head _ ih =>
    have held : (some first).bind map.pathKeyword? = (some second).bind map.pathKeyword? :=
      head.keyword
    rw [components, components, head.component same, ih held]

def IsKeywordText (map : AuditMap) (text : String) : Prop :=
  ∃ entry ∈ map.pathKeywords.entries, text = entry.1 ∨ text = entry.2

theorem component?_isKeywordText (map : AuditMap) {previous : Option String}
    {segment component : String} (added : map.component? previous segment = some component) :
    map.IsKeywordText component := by
  rw [component?] at added
  split at added
  · rename_i known
    obtain ⟨keyword, found⟩ := Option.isSome_iff_exists.1 known
    exact ⟨_, (Table.get?_eq_some_iff ..).1 found, .inl (Option.some.inj added).symm⟩
  · obtain ⟨last, _, found⟩ := Option.bind_eq_some_iff.1 added
    exact ⟨_, (Table.get?_eq_some_iff ..).1 found, .inr rfl⟩

theorem components_isKeywordText (map : AuditMap) (previous : Option String)
    (segments : List String) :
    ∀ component ∈ map.components previous segments, map.IsKeywordText component := by
  induction segments generalizing previous with
  | nil => simp [components]
  | cons segment rest ih =>
    intro component member
    rcases List.mem_append.1 member with added | later
    · exact map.component?_isKeywordText (Option.mem_toList.1 added)
    · exact ih _ component later

theorem keywords_sublist_components (map : AuditMap) (previous : Option String)
    (segments : List String) :
    (segments.filter map.isPathKeyword).Sublist (map.components previous segments) := by
  induction segments generalizing previous with
  | nil => exact .slnil
  | cons segment rest ih =>
    rw [List.filter_cons, components, component?]
    split
    · exact (ih _).cons_cons segment
    · exact (ih _).trans (List.sublist_append_right ..)

/-- Of a path its type URI shows the keywords and where the other segments stand, and nothing of
what those are: each component is a key or a value of the path keywords. -/
theorem typeUri_shows_keywords (map : AuditMap) (serviceType : String) :
    (∀ p q, List.Forall₂ map.Indistinct (Path.segments p) (Path.segments q) →
      map.typeUri p serviceType = map.typeUri q serviceType) ∧
    ∀ path, ∃ components, map.typeUri path serviceType = serviceType ++ joined components ∧
      (∀ component ∈ components, map.IsKeywordText component) ∧
      ((Path.segments path).filter map.isPathKeyword).Sublist components := by
  refine ⟨?_, ?_⟩
  · intro p q indistinct
    rw [typeUri_eq_joined, typeUri_eq_joined, map.components_indistinct indistinct rfl]
  · intro path
    exact ⟨_, typeUri_eq_joined .., map.components_isKeywordText none _,
      map.keywords_sublist_components none _⟩

theorem typeUri_shows_keywords_of_servers :
    let map := (empty.addPathKeyword "servers" "server").addPathKeyword "action" "None"
    let p := "/v2/tenant/servers/123.json/action"
    let q := "/v3//servers/secret/action.json"
    List.Forall₂ map.Indistinct (Path.segments p) (Path.segments q) ∧ p ≠ q ∧
      map.typeUri p "service/compute" = map.typeUri q "service/compute" := by
  intro map p q
  have indistinct : List.Forall₂ map.Indistinct (Path.segments p) (Path.segments q) := by
    decide +kernel
  exact ⟨indistinct, by decide, (typeUri_shows_keywords map "service/compute").1 p q indistinct⟩

end AuditMap

end CloudAudit
