import CloudAudit.Proofs.Action.Segment
import CloudAudit.Proofs.Target.TypeUri

/-! The last segment of a path in its action and in its type URI. A path is listed when the type
URI ends in that segment and read when it ends in the name of an instance or goes no further. A
closing slash is left out of the action, but begins one more segment of the type URI. -/
namespace CloudAudit

namespace Path

theorem segments_of_piece {piece : String} (noSlash : '/' ∉ piece.toList) :
    segments piece = [withoutJson piece] := by
  rw [segments, pieces, slashed_eq_splitOn, List.splitOn_eq_singleton noSlash]
  simp

def last (path : String) : String := (segments path).getLast (segments_ne_nil path)

theorem last_of_piece (front : String) {piece : String} (noSlash : '/' ∉ piece.toList) :
    last (front ++ "/" ++ piece) = withoutJson piece := by
  simp [last, segments_append, segments_of_piece noSlash]

end Path

namespace AuditMap

def instanceName (map : AuditMap) (segment : String) : String :=
  (map.pathKeyword? segment).elim "" ("/" ++ ·)

/-- A piece behind a path adds itself or the instance of what stands before it. -/
theorem typeUri_behind_slash (map : AuditMap) (front serviceType : String) {piece : String}
    (noSlash : '/' ∉ piece.toList) :
    map.typeUri (front ++ "/" ++ piece) serviceType =
      map.typeUri front serviceType ++
        if map.isPathKeyword (Path.withoutJson piece) then "/" ++ Path.withoutJson piece
        else map.instanceName (Path.last front) := by
  have ends : (Path.segments front).getLast? = some (Path.last front) :=
    List.getLast?_eq_some_getLast (Path.segments_ne_nil front)
  rw [typeUri_eq_joined, Path.segments_append, Path.segments_of_piece noSlash, components_append,
    joined_append, ends, Option.some_or, ← String.append_assoc, ← typeUri_eq_joined]
  congr 1
  simp only [components, component?, Option.bind_some, instanceName]
  split
  · simp [joined]
  · cases map.pathKeyword? (Path.last front) <;> simp [joined]

theorem typeUri_append_slash (map : AuditMap) (noEmpty : map.isPathKeyword "" = false)
    (path serviceType : String) :
    map.typeUri (path ++ "/") serviceType =
      map.typeUri path serviceType ++ map.instanceName (Path.last path) := by
  have nothing : Path.withoutJson "" = "" := by decide
  have noSlash : '/' ∉ "".toList := by decide
  have behind := map.typeUri_behind_slash path serviceType noSlash
  rwa [String.append_empty, nothing, noEmpty, if_neg Bool.false_ne_true] at behind

theorem typeUri_append_slashes (map : AuditMap) (noEmpty : map.isPathKeyword "" = false)
    (path serviceType : String) (count : Nat) :
    map.typeUri (path ++ "/" ++ String.ofList (List.replicate count '/')) serviceType =
      map.typeUri (path ++ "/") serviceType := by
  induction count generalizing path with
  | zero => simp
  | succ count ih =>
    have opened : path ++ "/" ++ String.ofList (List.replicate (count + 1) '/') =
        path ++ "/" ++ "/" ++ String.ofList (List.replicate count '/') := by
      apply String.toList_injective
      simp [List.replicate_succ]
    have unnamed : map.instanceName "" = "" := by
      rw [instanceName, (map.isPathKeyword_eq_false_iff "").1 noEmpty]
      rfl
    -- the segment between two slashes is empty, so the second slash adds no instance
    have last : Path.last (path ++ "/") = "" := by
      have noSlash : '/' ∉ "".toList := by decide
      have ends := Path.last_of_piece path noSlash
      rw [String.append_empty] at ends
      exact ends.trans (by decide)
    rw [opened, ih, map.typeUri_append_slash noEmpty (path ++ "/"), last, unnamed,
      String.append_empty]

/-- A request to get what a path names is a listing exactly when the last segment stands in the type
URI by itself. A closing slash does not change the action; in the type URI it adds the instance of
the last segment, and no further slash adds anything. -/
theorem typeUri_agrees_with_action (map : AuditMap) (parent : String) {piece : String}
    (nonempty : piece ≠ "") (noSlash : '/' ∉ piece.toList)
    (unmapped : map.customAction? (Path.withoutJson piece) = none)
    (unmappedGet : map.customAction? (Path.withoutJson piece ++ "/get") = none)
    (serviceType : String) (body : Option ByteArray) :
    let path := parent ++ "/" ++ piece
    let segment := Path.withoutJson piece
    (map.isPathKeyword segment = true ∧ map.classify .get path body = ⟨.list, []⟩ ∧
        map.typeUri path serviceType = map.typeUri parent serviceType ++ "/" ++ segment ∨
      map.isPathKeyword segment = false ∧ map.classify .get path body = ⟨.read, []⟩ ∧
        map.typeUri path serviceType =
          map.typeUri parent serviceType ++ map.instanceName (Path.last parent)) ∧
      (map.isPathKeyword "" = false →
        map.classify .get (path ++ "/") body = map.classify .get path body ∧
        map.typeUri (path ++ "/") serviceType =
          map.typeUri path serviceType ++ map.instanceName segment ∧
        ∀ count, map.typeUri (path ++ "/" ++ String.ofList (List.replicate count '/')) serviceType =
          map.typeUri (path ++ "/") serviceType) := by
  intro path segment
  obtain ⟨opened, closed⟩ := Path.lastSegment_behind_slash parent nonempty noSlash
  have key : methodKey segment .get = segment ++ "/get" := by
    have lower : Text.lowercase Http.Method.get.token = "get" := by decide +kernel
    rw [methodKey, lower, String.append_assoc]
    rfl
  have byRules : map.classify .get path body = Action.ofVerb map .get segment body := by
    have noMethod : map.customAction? (methodKey (Path.lastSegment path) .get) = none := by
      rw [opened, key, unmappedGet]
    have noSegment : map.customAction? (Path.lastSegment path) = none := by rw [opened, unmapped]
    rw [classify_by_rules noMethod noSegment, opened]
    rfl
  have uri := map.typeUri_behind_slash parent serviceType noSlash
  refine ⟨?_, fun noEmpty => ⟨?_, ?_, map.typeUri_append_slashes noEmpty path serviceType⟩⟩
  · cases known : map.isPathKeyword segment with
    | true =>
      rw [if_pos known, ← String.append_assoc] at uri
      exact .inl ⟨rfl, by rw [byRules, Action.ofVerb, known]; rfl, uri⟩
    | false =>
      rw [if_neg (ne_true_of_eq_false known)] at uri
      exact .inr ⟨rfl, by rw [byRules, Action.ofVerb, known]; rfl, uri⟩
  · exact map.classify_of_lastSegment .get (closed.trans opened.symm) body
  · rw [map.typeUri_append_slash noEmpty, Path.last_of_piece parent noSlash]

theorem typeUri_agrees_with_action_on_flavors :
    let map := (empty.addPathKeyword "servers" "server").addPathKeyword "flavors" "flavor"
    let path := "/v2/servers" ++ "/" ++ "flavors.json"
    map.isPathKeyword "" = false ∧ map.customAction? "flavors" = none ∧
      map.customAction? "flavors/get" = none ∧
      map.classify .get (path ++ "/") none = ⟨.list, []⟩ ∧
      map.typeUri (path ++ "/" ++ "//") "compute" = "compute/servers/flavors/flavor" := by
  intro map path
  have noEmpty : map.isPathKeyword "" = false := by decide +kernel
  have nonempty : "flavors.json" ≠ "" := by decide
  have unmapped : map.customAction? (Path.withoutJson "flavors.json") = none := rfl
  have unmappedGet : map.customAction? (Path.withoutJson "flavors.json" ++ "/get") = none := rfl
  obtain ⟨_, closed⟩ := map.typeUri_agrees_with_action "/v2/servers" nonempty (by decide)
    unmapped unmappedGet "compute" none
  obtain ⟨sameAction, withInstance, noMore⟩ := closed noEmpty
  refine ⟨noEmpty, rfl, rfl, sameAction.trans ?_, (noMore 2).trans (withInstance.trans ?_)⟩
  · decide +kernel
  · decide +kernel

end AuditMap

end CloudAudit
