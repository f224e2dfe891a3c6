import CloudAudit.Proofs.Action.Custom
import CloudAudit.Proofs.Action.Flagged
import CloudAudit.Proofs.Action.Segment

/-! Custom actions that never take effect: whatever stands under such a key, every request is
classified as before. A map is warned of a dead key by its last piece only, so that a key with two
slashes is dead and passes when its last piece is one of the usual methods. -/
namespace CloudAudit

namespace Path

theorem cut_at_lastPiece {path : List Char} (slash : '/' ∈ path) :
    ∃ front, path = front ++ '/' :: lastPiece path := by
  obtain ⟨back, front, cut, noSlash⟩ := List.eq_append_cons_of_mem (List.mem_reverse.2 slash)
  have forwards : path = front.reverse ++ '/' :: back.reverse := by
    simpa using congrArg List.reverse cut
  refine ⟨front.reverse, ?_⟩
  rw [forwards, lastPiece_append_slash _ (mt List.mem_reverse.1 noSlash)]

end Path

namespace AuditMap

open Text (lowercase)

def replaceCustomAction (map : AuditMap) (key action : String) : AuditMap :=
  { map with customActions := map.customActions.insert key action }

def Dead (map : AuditMap) (key : String) : Prop :=
  ∀ action method path body,
    ((map.replaceCustomAction key action).classify method path body).value =
      (map.classify method path body).value

theorem customAction?_replaceCustomAction (map : AuditMap) (key action other : String) :
    (map.replaceCustomAction key action).customAction? other =
      if other = key then some action else map.customAction? other :=
  map.customActions.get?_insert key action other

theorem classify_replaceCustomAction_self (map : AuditMap) {key : String} {method : Http.Method}
    {path : String} (formed : methodKey (Path.lastSegment path) method = key) (action : String)
    (body : Option ByteArray) :
    (map.replaceCustomAction key action).classify method path body = ⟨.custom action, []⟩ := by
  have found : (map.replaceCustomAction key action).customAction? key = some action :=
    (map.customAction?_replaceCustomAction key action key).trans (if_pos rfl)
  rw [classify]
  simp only [formed, found]
  rfl

/-- A key with a slash is dead if and only if no request forms it. -/
theorem dead_iff (map : AuditMap) {key : String} (slash : '/' ∈ key.toList) :
    map.Dead key ↔ ∀ method path, methodKey (Path.lastSegment path) method ≠ key := by
  constructor
  · -- two actions in turn would both be the answer that the map gives now
    intro dead method path formed
    have first := dead "" method path none
    have second := dead "unknown" method path none
    rw [classify_replaceCustomAction_self map formed] at first second
    have same : Action.custom "" = .custom "unknown" := first.trans second.symm
    exact absurd (Action.custom.inj same) (by decide)
  · intro unformed action method path body
    have other (name : String) (differs : name ≠ key) :
        (map.replaceCustomAction key action).customAction? name = map.customAction? name :=
      (map.customAction?_replaceCustomAction key action name).trans (if_neg differs)
    have noSegment : Path.lastSegment path ≠ key := by
      rintro rfl
      exact Path.slash_not_mem_lastSegment path slash
    exact congrArg Logged.value (classify_congr (other _ (unformed method path))
      (other _ noSegment) (fun _ => rfl) body)

theorem dead_of_slashes (map : AuditMap) {key : String} (several : 2 ≤ key.toList.count '/') :
    map.Dead key := by
  refine (map.dead_iff (List.count_pos_iff.1 (by omega))).2 ?_
  rintro method path rfl
  rw [count_slash_methodKey (Path.slash_not_mem_lastSegment path)] at several
  omega

/-- Each of the known methods is the method of some request. -/
theorem exists_method_of_known {name : String} (known : name ∈ knownMethods) :
    ∃ method : Http.Method, lowercase method.token = name := by
  have tokens : ∀ token ∈ Http.knownTokens, Http.isToken token = true := by decide
  have names : knownMethods = Http.knownTokens.map lowercase := by decide +kernel
  obtain ⟨token, listed, rfl⟩ := List.mem_map.1 (names ▸ known)
  exact ⟨⟨token, tokens token listed⟩, rfl⟩

/-- A key with one slash and a known method behind it is formed by a request. -/
theorem exists_request {key name : String} (single : key.toList.count '/' = 1)
    (names : keyMethod? key = some name) (known : name ∈ knownMethods) :
    ∃ method path, methodKey (Path.lastSegment path) method = key := by
  have slash := slash_mem_of_keyMethod? names
  obtain ⟨front, cut⟩ := Path.cut_at_lastPiece slash
  have behind : (Path.lastPiece key.toList).count '/' = 0 :=
    List.count_eq_zero.2 (Path.slash_not_mem_lastPiece key.toList)
  have plain : '/' ∉ front := by
    rw [cut, List.count_append, List.count_cons_self, behind] at single
    exact List.count_eq_zero.1 (by omega)
  rw [keyMethod?, if_pos slash, Option.some.injEq] at names
  obtain ⟨method, lowered⟩ := exists_method_of_known known
  refine ⟨method, String.ofList front ++ ".json", ?_⟩
  have segment : Path.lastSegment (String.ofList front ++ ".json") = String.ofList front := by
    rw [Path.lastSegment_of_piece (by simpa using plain), Path.withoutJson_append]
  apply String.toList_injective
  rw [segment, toList_methodKey, lowered, ← names]
  simpa using cut.symm

/-- A map is warned of every dead key with one slash. Of dead keys with more slashes it is warned
unless they end in one of the known methods. -/
theorem warned_of_dead {map : AuditMap} {key : String} (stored : (map.customAction? key).isSome)
    (slash : '/' ∈ key.toList) :
    (map.Dead key ↔ ∀ method path, methodKey (Path.lastSegment path) method ≠ key) ∧
      (2 ≤ key.toList.count '/' → map.Dead key) ∧
      (map.Dead key → key.toList.count '/' = 1 →
        ∃ name, .unknownCustomActionMethod key name ∈ map.warnings) ∧
      (map.Dead key → ((∃ name, .unknownCustomActionMethod key name ∈ map.warnings) ↔
        ¬ (2 ≤ key.toList.count '/' ∧ ∃ name ∈ knownMethods, keyMethod? key = some name))) := by
  obtain ⟨name, names⟩ : ∃ name, keyMethod? key = some name := ⟨_, if_pos slash⟩
  have warned : (∃ name, .unknownCustomActionMethod key name ∈ map.warnings) ↔
      name ∉ knownMethods := by
    simp only [flagged_iff, stored, names, true_and, Option.some.injEq]
    exact ⟨fun ⟨_, same, unknown⟩ => same ▸ unknown, fun unknown => ⟨name, rfl, unknown⟩⟩
  have unknown (dead : map.Dead key) (single : key.toList.count '/' = 1) :
      name ∉ knownMethods := by
    intro known
    obtain ⟨method, path, formed⟩ := exists_request single names known
    exact (map.dead_iff slash).1 dead method path formed
  have positive : 0 < key.toList.count '/' := List.count_pos_iff.2 slash
  refine ⟨map.dead_iff slash, map.dead_of_slashes, fun dead single => ?_, fun dead => ?_⟩
  · exact warned.2 (unknown dead single)
  · rw [warned, names]
    constructor
    · rintro unknown ⟨_, _, known, same⟩
      cases same
      exact unknown known
    · intro exception known
      by_cases several : 2 ≤ key.toList.count '/'
      · exact exception ⟨several, name, known, rfl⟩
      · exact unknown dead (by omega) known

theorem warned_of_dead_trace :
    let map := empty.addCustomAction "v2/servers/trace" "trace"
    map.Dead "v2/servers/trace" ∧
      ∃ name, .unknownCustomActionMethod "v2/servers/trace" name ∈ map.warnings := by
  intro map
  obtain ⟨_, several, _, warned⟩ :=
    warned_of_dead (by decide +kernel : (map.customAction? "v2/servers/trace").isSome) (by decide)
  have dead := several (by decide)
  refine ⟨dead, (warned dead).2 ?_⟩
  rintro ⟨_, name, known, names⟩
  cases names
  exact absurd known (by decide +kernel)

/-- A version in front of the segment makes the entry dead, and no warning tells so. -/
theorem unwarned_of_version :
    let map := empty.addCustomAction "v2/servers/get" "list/servers"
    (map.customAction? "v2/servers/get").isSome ∧ map.Dead "v2/servers/get" ∧
      map.warnings = [] :=
  ⟨by decide +kernel, dead_of_slashes _ (by decide), by decide +kernel⟩

end AuditMap

end CloudAudit
