import CloudAudit.Audit
import CloudAudit.Proofs.Text.Lowercase
import Mathlib.Data.List.Basic

/-! What one custom action changes. A key without a slash stands for a segment and a key with one
slash for a segment and a method, and neither is ever taken for the other. -/
namespace CloudAudit.AuditMap

open Text (lowercase)

theorem customAction?_addCustomAction (map : AuditMap) (key action other : String) :
    (map.addCustomAction key action).customAction? other =
      if other = lowercase key then some action else map.customAction? other :=
  map.customActions.get?_insert (lowercase key) action other

theorem slash_not_mem_lowercase {s : String} (noSlash : '/' ∉ s.toList) :
    '/' ∉ (lowercase s).toList := by
  rw [← List.count_eq_zero] at noSlash ⊢
  rwa [Text.count_slash_lowercase]

/-- The key of a request is cut at its one slash. -/
theorem methodKey_eq_iff {segment : String} (noSlash : '/' ∉ segment.toList)
    (method : Http.Method) (s m : String) :
    methodKey segment method = s ++ "/" ++ m ↔ segment = s ∧ lowercase method.token = m := by
  have parts : (s ++ "/" ++ m).toList = s.toList ++ '/' :: m.toList := by simp
  have behind := slash_not_mem_lowercase method.slash_not_mem_token
  rw [← String.toList_inj, toList_methodKey, parts,
    List.append_cons_inj_of_notMem noSlash behind, String.toList_inj, String.toList_inj]
  exact ⟨fun ⟨before, _, after⟩ => ⟨before, after⟩, fun ⟨before, after⟩ => ⟨before, rfl, after⟩⟩

theorem count_slash_methodKey {segment : String} (noSlash : '/' ∉ segment.toList)
    (method : Http.Method) : (methodKey segment method).toList.count '/' = 1 := by
  have behind := slash_not_mem_lowercase method.slash_not_mem_token
  rw [toList_methodKey, List.count_append, List.count_cons_self, List.count_eq_zero.2 noSlash,
    List.count_eq_zero.2 behind]

theorem classify_added (map : AuditMap) (key action : String) (method : Http.Method)
    (path : String) (body : Option ByteArray) :
    (map.addCustomAction key action).classify method path body =
      if lowercase key = methodKey (Path.lastSegment path) method ∨
          lowercase key = Path.lastSegment path ∧
            map.customAction? (methodKey (Path.lastSegment path) method) = none then
        ⟨.custom action, []⟩
      else map.classify method path body := by
  have looked := map.customAction?_addCustomAction key action
  by_cases byMethod : lowercase key = methodKey (Path.lastSegment path) method
  · rw [if_pos (.inl byMethod), classify]
    simp only [looked, byMethod, if_true]
    rfl
  have otherMethod := (looked _).trans (if_neg (Ne.symm byMethod))
  by_cases bySegment : lowercase key = Path.lastSegment path
  · -- the new entry stands behind one for the method, if there is one
    cases stored : map.customAction? (methodKey (Path.lastSegment path) method) with
    | none =>
      rw [if_pos (.inr ⟨bySegment, rfl⟩), classify]
      simp only [otherMethod, stored, looked, bySegment, if_true]
      rfl
    | some earlier =>
      rw [if_neg (by simp [byMethod]), classify, classify]
      simp only [otherMethod, stored]
  · rw [if_neg (by simp [byMethod, bySegment])]
    exact classify_congr otherMethod ((looked _).trans (if_neg (Ne.symm bySegment)))
      (fun _ => rfl) body

theorem components_customActions (map : AuditMap) (actions : Table) (previous : Option String)
    (segments : List String) :
    { map with customActions := actions }.components previous segments =
      map.components previous segments := by
  induction segments generalizing previous with
  | nil => rfl
  | cons segment rest ih =>
    rw [components, components, ih]
    rfl

/-- Custom actions have no part in targets. -/
theorem resolve_customActions (map : AuditMap) (actions : Table) (path hostUrl : String)
    (catalog : Option Catalog) :
    { map with customActions := actions }.resolve path hostUrl catalog =
      map.resolve path hostUrl catalog := by
  have selected : { map with customActions := actions }.selectService = map.selectService := rfl
  have composed : { map with customActions := actions }.targetOf = map.targetOf := by
    funext path service
    simp only [targetOf, typeUri, components_customActions]
  simp only [resolve, selected, composed]

theorem target_customActions (map : AuditMap) (actions : Table) (request : AuditRequest) :
    { map with customActions := actions }.target request = map.target request := by
  simp only [target, resolve_customActions]

/-- A custom action changes the action of the requests whose segment and method its key stands for,
of those whose segment it stands for unless an entry for their method goes first, and of no others.
How slashes cut the key decides which of the two it is. -/
theorem classify_addCustomAction (map : AuditMap) (key action : String) (method : Http.Method)
    (path : String) (body : Option ByteArray) :
    let segment := Path.lastSegment path
    let named := methodKey segment method
    let added := lowercase key
    let before := map.classify method path body
    let after := (map.addCustomAction key action).classify method path body
    (after = if added = named ∨ added = segment ∧ map.customAction? named = none then
        ⟨.custom action, []⟩ else before) ∧
      ¬ (added = named ∧ added = segment) ∧
      (key.toList.count '/' = 0 → after = if added = segment ∧ map.customAction? named = none then
        ⟨.custom action, []⟩ else before) ∧
      (∀ s m, key = s ++ "/" ++ m →
        after = if segment = lowercase s ∧ lowercase method.token = lowercase m then
          ⟨.custom action, []⟩ else before) ∧
      (2 ≤ key.toList.count '/' → after = before) ∧
      (∀ s m, lowercase (s ++ "/" ++ m) = lowercase s ++ "/" ++ lowercase m) ∧
      (∀ request, (map.addCustomAction key action).target request = map.target request) ∧
      ∀ path hostUrl catalog, (map.addCustomAction key action).resolve path hostUrl catalog =
        map.resolve path hostUrl catalog := by
  intro segment named added before after
  have noSlash : '/' ∉ segment.toList := Path.slash_not_mem_lastSegment path
  have inSegment : segment.toList.count '/' = 0 := List.count_eq_zero.2 noSlash
  have inNamed : named.toList.count '/' = 1 := count_slash_methodKey noSlash method
  have inAdded : added.toList.count '/' = key.toList.count '/' := Text.count_slash_lowercase key
  have effect : after = if added = named ∨ added = segment ∧ map.customAction? named = none then
      ⟨.custom action, []⟩ else before := map.classify_added key action method path body
  have ofNamed (same : added = named) : key.toList.count '/' = 1 := by rw [← inAdded, same, inNamed]
  have ofSegment (same : added = segment) : key.toList.count '/' = 0 := by
    rw [← inAdded, same, inSegment]
  refine ⟨effect, ?_, ?_, ?_, ?_, Text.lowercase_append_slash,
    map.target_customActions _, map.resolve_customActions _⟩
  · rintro ⟨byMethod, bySegment⟩
    have := ofNamed byMethod
    have := ofSegment bySegment
    omega
  · intro plain
    have otherMethod : added ≠ named := fun same => by have := ofNamed same; omega
    rw [effect]
    simp only [otherMethod, false_or]
  · rintro s m rfl
    have otherSegment : added ≠ segment := by
      intro same
      have := ofSegment same
      simp at this
    have cut : added = named ↔ segment = lowercase s ∧ lowercase method.token = lowercase m := by
      rw [eq_comm, ← methodKey_eq_iff noSlash, ← Text.lowercase_append_slash]
    rw [effect]
    simp only [otherSegment, false_and, or_false, cut]
  · intro several
    rw [effect, if_neg]
    rintro (byMethod | ⟨bySegment, _⟩)
    · have := ofNamed byMethod
      omega
    · have := ofSegment bySegment
      omega

/-- The capital sigmas of the key are lowercased by the words that they stand in. -/
theorem classify_addCustomAction_of_greek :
    let map := empty.addCustomAction "σας" "plain"
    (map.addCustomAction "ΣΑΣ/GeT" "read/greek").classify .get "/v2/σας.json/" none =
      ⟨.custom "read/greek", []⟩ := by
  intro map
  obtain ⟨_, _, _, cut, _⟩ :=
    map.classify_addCustomAction "ΣΑΣ/GeT" "read/greek" .get "/v2/σας.json/" none
  exact (cut "ΣΑΣ" "GeT" (by decide)).trans (if_pos (by decide +kernel))

end CloudAudit.AuditMap
