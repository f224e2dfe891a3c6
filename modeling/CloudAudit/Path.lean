/-! Paths are pieces between slashes. A piece may carry the ending `.json`, which names the form of
the answer and not the resource. -/
namespace CloudAudit.Path

def slashed (path : List Char) : List (List Char) :=
  path.foldr (fun c pieces =>
    if c = '/' then [] :: pieces
    else match pieces with
      | [] => [[c]]
      | piece :: rest => (c :: piece) :: rest) [[]]

def pieces (path : String) : List String := (slashed path.toList).map String.ofList

theorem slashed_eq_splitOn (path : List Char) : slashed path = path.splitOn '/' := by
  induction path with
  | nil => rfl
  | cons c rest ih =>
    have nonempty : slashed rest ≠ [] := ih ▸ List.splitOn_ne_nil '/' rest
    rw [List.splitOn_cons_eq_if_modifyHead, ← ih, slashed, List.foldr_cons, ← slashed]
    by_cases slash : c = '/'
    · simp [slash]
    · obtain ⟨piece, more, same⟩ := List.exists_cons_of_ne_nil nonempty
      simp [slash, same]

theorem pieces_ne_nil (path : String) : pieces path ≠ [] := by
  simp [pieces, slashed_eq_splitOn, List.splitOn_ne_nil]

theorem pieces_append (p q : String) : pieces (p ++ "/" ++ q) = pieces p ++ pieces q := by
  have cut : (p ++ "/" ++ q).toList = p.toList ++ '/' :: q.toList := by simp
  simp only [pieces, slashed_eq_splitOn, cut, List.splitOn_append_cons_self, List.map_append]

def lastPiece (path : List Char) : List Char := (path.reverse.takeWhile (· ≠ '/')).reverse

theorem slash_not_mem_lastPiece (path : List Char) : '/' ∉ lastPiece path := by
  intro inside
  have passed := List.all_eq_true.1 List.all_takeWhile '/' (List.mem_reverse.1 inside)
  simp at passed

theorem passed_of_noSlash {back : List Char} (noSlash : '/' ∉ back) :
    ∀ c ∈ back.reverse, decide (c ≠ '/') = true := by
  intro c inside
  rw [decide_eq_true_iff]
  rintro rfl
  exact noSlash (List.mem_reverse.1 inside)

theorem lastPiece_append_slash (front : List Char) {back : List Char} (noSlash : '/' ∉ back) :
    lastPiece (front ++ '/' :: back) = back := by
  have backwards : (front ++ '/' :: back).reverse = back.reverse ++ '/' :: front.reverse := by simp
  rw [lastPiece, backwards, List.takeWhile_append_of_pos (passed_of_noSlash noSlash),
    List.takeWhile_cons]
  simp

theorem lastPiece_of_noSlash {path : List Char} (noSlash : '/' ∉ path) : lastPiece path = path := by
  rw [lastPiece, ← List.append_nil path.reverse,
    List.takeWhile_append_of_pos (passed_of_noSlash noSlash), List.takeWhile_nil, List.append_nil,
    List.reverse_reverse]

def withoutEnding (ending s : List Char) : List Char :=
  if ending.isSuffixOf s then s.take (s.length - ending.length) else s

theorem withoutEnding_sublist (ending s : List Char) : (withoutEnding ending s).Sublist s := by
  rw [withoutEnding]
  split
  · exact List.take_sublist _ s
  · exact .refl s

theorem withoutEnding_append (ending s : List Char) : withoutEnding ending (s ++ ending) = s := by
  simp [withoutEnding, List.isSuffixOf_iff_suffix]

theorem withoutEnding_of_not_suffix {ending s : List Char} (other : ¬ ending <:+ s) :
    withoutEnding ending s = s := by
  rw [withoutEnding, if_neg (mt List.isSuffixOf_iff_suffix.1 other)]

theorem withoutEnding_of_last {c : Char} {s : List Char} (other : s.getLast? ≠ some c) :
    withoutEnding [c] s = s := by
  apply withoutEnding_of_not_suffix
  rintro ⟨front, rfl⟩
  simp at other

def withoutJson (segment : String) : String :=
  String.ofList (withoutEnding ".json".toList segment.toList)

theorem slash_not_mem_withoutJson {segment : String} (noSlash : '/' ∉ segment.toList) :
    '/' ∉ (withoutJson segment).toList := by
  rw [withoutJson, String.toList_ofList]
  generalize ".json".toList = ending
  exact fun inside => noSlash ((withoutEnding_sublist ending _).mem inside)

def lastSegment (path : String) : String :=
  withoutJson (String.ofList (lastPiece (withoutEnding ['/'] path.toList)))

theorem lastSegment_append_slash (path : String) :
    lastSegment (path ++ "/") = withoutJson (String.ofList (lastPiece path.toList)) := by
  have closed : (path ++ "/").toList = path.toList ++ ['/'] := by simp
  rw [lastSegment, closed, withoutEnding_append]

theorem lastSegment_of_open {path : String} (noSlash : path.toList.getLast? ≠ some '/') :
    lastSegment path = withoutJson (String.ofList (lastPiece path.toList)) := by
  rw [lastSegment, withoutEnding_of_last noSlash]

theorem slash_not_mem_lastSegment (path : String) : '/' ∉ (lastSegment path).toList := by
  apply slash_not_mem_withoutJson
  rw [String.toList_ofList]
  exact slash_not_mem_lastPiece _

end CloudAudit.Path
