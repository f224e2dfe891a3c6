import CloudAudit.Action

/-! The segment that names a resource, in all the ways that a path can end in it. Of a path an
action depends on this segment and on nothing else. -/
namespace CloudAudit

namespace Path

theorem withoutJson_append (segment : String) : withoutJson (segment ++ ".json") = segment := by
  rw [withoutJson, String.toList_append, withoutEnding_append, String.ofList_toList]

theorem withoutJson_of_plain {segment : String} (plain : ¬ ".json".toList <:+ segment.toList) :
    withoutJson segment = segment := by
  rw [withoutJson, withoutEnding_of_not_suffix plain, String.ofList_toList]

theorem lastSegment_of_piece {piece : String} (noSlash : '/' ∉ piece.toList) :
    lastSegment piece = withoutJson piece := by
  have noEnd : piece.toList.getLast? ≠ some '/' := fun last => noSlash (List.mem_of_getLast? last)
  rw [lastSegment_of_open noEnd, lastPiece_of_noSlash noSlash, String.ofList_toList]

/-- What counts is the last piece, whether a slash closes it or not. -/
theorem lastSegment_behind_slash (front : String) {piece : String} (nonempty : piece ≠ "")
    (noSlash : '/' ∉ piece.toList) :
    lastSegment (front ++ "/" ++ piece) = withoutJson piece ∧
      lastSegment (front ++ "/" ++ piece ++ "/") = withoutJson piece := by
  have cut : (front ++ "/" ++ piece).toList = front.toList ++ '/' :: piece.toList := by simp
  have noEnd : (front ++ "/" ++ piece).toList.getLast? ≠ some '/' := by
    have ends := List.getLast?_eq_some_getLast (mt String.toList_eq_nil_iff.1 nonempty)
    rw [cut, List.getLast?_append, List.getLast?_cons, ends]
    intro last
    exact noSlash (Option.some.inj last ▸ List.getLast_mem _)
  rw [lastSegment_append_slash, lastSegment_of_open noEnd, cut,
    lastPiece_append_slash front.toList noSlash, String.ofList_toList]
  exact ⟨rfl, rfl⟩

/-- The paths that end in a segment: the segment alone, or behind any front, as it is or with the
ending `.json`, closed by a slash or not. -/
def endingIn (front segment : String) : List String :=
  [segment, front ++ "/" ++ segment, front ++ "/" ++ segment ++ "/",
    front ++ "/" ++ segment ++ ".json", front ++ "/" ++ segment ++ ".json" ++ "/"]

theorem lastSegment_endingIn (front : String) {segment : String} (nonempty : segment ≠ "")
    (noSlash : '/' ∉ segment.toList) (plain : ¬ ".json".toList <:+ segment.toList) :
    ∀ path ∈ endingIn front segment, lastSegment path = segment := by
  have asItIs := lastSegment_behind_slash front nonempty noSlash
  have noSlashInEnding : '/' ∉ (segment ++ ".json").toList := by simpa using noSlash
  have nonemptyWithEnding : segment ++ ".json" ≠ "" := by simp
  have withEnding := lastSegment_behind_slash front nonemptyWithEnding noSlashInEnding
  rw [withoutJson_of_plain plain] at asItIs
  rw [withoutJson_append, ← String.append_assoc] at withEnding
  simp only [endingIn, List.forall_mem_cons, List.not_mem_nil, false_implies, implies_true,
    and_true]
  exact ⟨(lastSegment_of_piece noSlash).trans (withoutJson_of_plain plain), asItIs.1, asItIs.2,
    withEnding.1, withEnding.2⟩

theorem lastSegment_doubled_slash (path : String) : lastSegment (path ++ "//") = "" := by
  have closed : path ++ "//" = path ++ "/" ++ "/" := by
    rw [String.append_assoc]
    rfl
  have cut : (path ++ "/").toList = path.toList ++ '/' :: [] := by simp
  rw [closed, lastSegment_append_slash, cut, lastPiece_append_slash path.toList List.not_mem_nil]
  decide

end Path

namespace AuditMap

theorem classify_of_lastSegment (map : AuditMap) (method : Http.Method) {p q : String}
    (same : Path.lastSegment p = Path.lastSegment q) (body : Option ByteArray) :
    map.classify method p body = map.classify method q body := by
  rw [classify, classify, same]

/-- Paths that end in the same segment are classified alike, log and all, and a path that ends in
two slashes as the empty path. -/
theorem classify_every_spelling (map : AuditMap) (method : Http.Method) (body : Option ByteArray) :
    (∀ front segment, segment ≠ "" → '/' ∉ segment.toList →
      ¬ ".json".toList <:+ segment.toList → ∀ path ∈ Path.endingIn front segment,
        Path.lastSegment path = segment ∧
          map.classify method path body = map.classify method segment body) ∧
      (∀ path, Path.lastSegment (path ++ "//") = "" ∧
        map.classify method (path ++ "//") body = map.classify method "" body) ∧
      (∀ path, path.toList.getLast? ≠ some '/' →
        map.classify method (path ++ "/") body = map.classify method path body) ∧
      ∀ p q, Path.lastSegment p = Path.lastSegment q →
        map.classify method p body = map.classify method q body := by
  refine ⟨?_, ?_, ?_, fun p q same => map.classify_of_lastSegment method same body⟩
  · intro front segment nonempty noSlash plain path ending
    have ends := Path.lastSegment_endingIn front nonempty noSlash plain
    have itself := ends segment (.head _)
    exact ⟨ends path ending,
      map.classify_of_lastSegment method ((ends path ending).trans itself.symm) body⟩
  · intro path
    have empty : Path.lastSegment "" = "" := by decide
    have last := Path.lastSegment_doubled_slash path
    exact ⟨last, map.classify_of_lastSegment method (last.trans empty.symm) body⟩
  · intro path noEnd
    have same : Path.lastSegment (path ++ "/") = Path.lastSegment path := by
      rw [Path.lastSegment_append_slash, Path.lastSegment_of_open noEnd]
    exact map.classify_of_lastSegment method same body

theorem classify_every_spelling_of_servers :
    let map := empty.addPathKeyword "servers" "server"
    let path := "a//.json/servers.json/"
    path ∈ Path.endingIn "a//.json" "servers" ∧ Path.lastSegment path = "servers" ∧
      map.classify .get path none = ⟨.list, []⟩ := by
  intro map path
  have ending : path ∈ Path.endingIn "a//.json" "servers" := by decide
  obtain ⟨segment, same⟩ := (map.classify_every_spelling .get none).1 "a//.json" "servers"
    (by decide) (by decide) (by decide) path ending
  exact ⟨ending, segment, same.trans (by decide +kernel)⟩

end AuditMap

end CloudAudit
