import CloudAudit.NetworkLocation
import Mathlib.Data.Bool.AllAny
import Mathlib.Data.List.TakeWhile

/-! Network locations behind a scheme. The first colon of a URL ends the scheme, so the colons of a
password, a port or an address in brackets belong to the location. A URL has the location that the
grammar cuts out of it, and no other. -/
namespace CloudAudit

theorem colon_not_mem_of_isScheme {scheme : List Char} (formed : isScheme scheme = true) :
    ':' ∉ scheme := by
  cases scheme with
  | nil => exact List.not_mem_nil
  | cons first rest =>
    simp only [isScheme, Bool.and_eq_true, List.all_eq_true] at formed
    obtain ⟨letter, allowed⟩ := formed
    intro member
    rcases List.mem_cons.1 member with rfl | later
    · exact absurd letter (by decide)
    · exact absurd (allowed ':' later) (by decide)

theorem withoutScheme_of_isScheme {scheme : List Char} (formed : isScheme scheme = true)
    (rest : List Char) : withoutScheme (scheme ++ ':' :: rest) = rest := by
  have passed : ∀ c ∈ scheme, decide (c ≠ ':') = true := by
    intro c member
    rw [decide_eq_true_iff]
    rintro rfl
    exact colon_not_mem_of_isScheme formed member
  have stops : (':' :: rest).dropWhile (· ≠ ':') = ':' :: rest := by simp
  have nothing : (':' :: rest).takeWhile (· ≠ ':') = [] := by simp
  rw [withoutScheme, List.dropWhile_append_of_pos passed, List.takeWhile_append_of_pos passed,
    stops, nothing, List.append_nil]
  exact if_pos formed

/-- A slash begins no scheme. -/
theorem withoutScheme_of_slash (rest : List Char) :
    withoutScheme ('/' :: rest) = '/' :: rest := by
  have noScheme : isScheme (('/' :: rest).takeWhile (· ≠ ':')) = false := by
    rw [List.takeWhile_cons_of_pos (by decide), isScheme]
    rfl
  rw [withoutScheme, noScheme]
  split <;> rfl

theorem networkLocation?_behind_scheme {scheme : String} (formed : isScheme scheme.toList = true)
    (text : String) : networkLocation? (scheme ++ "://" ++ text) = networkLocation? ("//" ++ text) := by
  have cut : (scheme ++ "://" ++ text).toList = scheme.toList ++ ':' :: '/' :: '/' :: text.toList := by
    simp
  have slashes : ("//" ++ text).toList = '/' :: '/' :: text.toList := by simp
  rw [networkLocation?, networkLocation?, cut, slashes, withoutScheme_of_isScheme formed,
    withoutScheme_of_slash]

inductive Leads : List Char → Prop
  | nothing : Leads []
  | scheme {first : Char} {rest : List Char} (letter : first.isAlpha = true)
    (others : ∀ c ∈ rest, c.isAlphanum = true ∨ c ∈ ['+', '-', '.']) :
    Leads (first :: rest ++ [':'])

inductive Follows : List Char → Prop
  | nothing : Follows []
  | part {mark : Char} (listed : mark ∈ ['/', '?', '#']) (rest : List Char) : Follows (mark :: rest)

structure IsLocation (location : String) : Prop where
  nonempty : location ≠ ""
  plain : ∀ c ∈ location.toList, c ∉ ['/', '?', '#']

def Locates (url location : String) : Prop :=
  IsLocation location ∧ ∃ before behind : String, Leads before.toList ∧ Follows behind.toList ∧
    url = before ++ "//" ++ location ++ behind

theorem endsAuthority_iff (c : Char) : endsAuthority c = true ↔ c ∈ ['/', '?', '#'] := by
  simp [endsAuthority, or_assoc]

theorem isScheme_cons_iff (first : Char) (rest : List Char) :
    isScheme (first :: rest) = true ↔
      first.isAlpha = true ∧ ∀ c ∈ rest, c.isAlphanum = true ∨ c ∈ ['+', '-', '.'] := by
  simp [isScheme, or_assoc]

/-- Only what may stand in front of the slashes is taken away. -/
theorem withoutScheme_eq (url : List Char) :
    ∃ before, Leads before ∧ url = before ++ withoutScheme url := by
  have cut : url.takeWhile (· ≠ ':') ++ url.dropWhile (· ≠ ':') = url :=
    List.takeWhile_append_dropWhile
  unfold withoutScheme
  split
  case h_1 => exact ⟨[], .nothing, rfl⟩
  case h_2 c rest behind =>
    have colon : c = ':' := by
      have stops := List.head?_dropWhile_not (· ≠ ':') url
      rw [behind] at stops
      simpa using stops
    rw [behind, colon] at cut
    split
    case isTrue formed =>
      cases scheme : url.takeWhile (· ≠ ':') with
      | nil =>
        rw [scheme] at formed
        cases formed
      | cons first others =>
        rw [scheme] at formed cut
        obtain ⟨letter, allowed⟩ := (isScheme_cons_iff first others).1 formed
        exact ⟨first :: others ++ [':'], .scheme letter allowed, by simpa using cut.symm⟩
    case isFalse => exact ⟨[], .nothing, rfl⟩

theorem withoutScheme_of_leads {before : List Char} (leads : Leads before) (rest : List Char) :
    withoutScheme (before ++ '/' :: rest) = '/' :: rest := by
  cases leads with
  | nothing => exact withoutScheme_of_slash rest
  | scheme letter others =>
    have formed := (isScheme_cons_iff _ _).2 ⟨letter, others⟩
    rw [List.append_assoc]
    exact withoutScheme_of_isScheme formed ('/' :: rest)

theorem takeWhile_location {location : String} (isLocation : IsLocation location)
    {behind : List Char} (follows : Follows behind) :
    (location.toList ++ behind).takeWhile (!endsAuthority ·) = location.toList := by
  have passed : ∀ c ∈ location.toList, (!endsAuthority c) = true := by
    intro c inside
    rw [Bool.not_eq_true', Bool.eq_false_iff, Ne, endsAuthority_iff]
    exact isLocation.plain c inside
  have stops : behind.takeWhile (!endsAuthority ·) = [] := by
    cases follows with
    | nothing => rfl
    | part listed =>
      apply List.takeWhile_cons_of_neg
      simp [(endsAuthority_iff _).2 listed]
  rw [List.takeWhile_append_of_pos passed, stops, List.append_nil]

theorem networkLocation?_of_parts {location before behind : String}
    (isLocation : IsLocation location) (leads : Leads before.toList)
    (follows : Follows behind.toList) :
    networkLocation? (before ++ "//" ++ location ++ behind) = some location := by
  have cut : (before ++ "//" ++ location ++ behind).toList =
      before.toList ++ '/' :: '/' :: (location.toList ++ behind.toList) := by simp
  rw [networkLocation?, cut, withoutScheme_of_leads leads]
  simp only [takeWhile_location isLocation follows]
  split
  case h_1 nothing => exact absurd (String.toList_eq_nil_iff.1 nothing) isLocation.nonempty
  case h_2 => rw [String.ofList_toList]

theorem networkLocation?_behind_slashes {location : String} (nonempty : location ≠ "")
    (plain : ∀ c ∈ location.toList, endsAuthority c = false) :
    networkLocation? ("//" ++ location) = some location := by
  have isLocation : IsLocation location := by
    refine ⟨nonempty, fun c inside listed => ?_⟩
    cases (plain c inside).symm.trans ((endsAuthority_iff c).2 listed)
  have leads : Leads "".toList := .nothing
  have follows : Follows "".toList := .nothing
  simpa using networkLocation?_of_parts isLocation leads follows

theorem locates_of_networkLocation? {url location : String}
    (found : networkLocation? url = some location) : Locates url location := by
  obtain ⟨before, leads, split⟩ := withoutScheme_eq url.toList
  unfold networkLocation? at found
  split at found
  case h_2 => cases found
  case h_1 rest slashes =>
    split at found
    case h_1 => cases found
    case h_2 nonempty =>
      cases found
      have passed : ∀ c ∈ rest.takeWhile (!endsAuthority ·), c ∉ ['/', '?', '#'] := by
        intro c inside
        have taken := List.all_eq_true.1 List.all_takeWhile c inside
        rwa [Bool.not_eq_true', Bool.eq_false_iff, Ne, endsAuthority_iff] at taken
      have behind : Follows (rest.dropWhile (!endsAuthority ·)) := by
        have stops := List.head?_dropWhile_not (!endsAuthority ·) rest
        cases left : rest.dropWhile (!endsAuthority ·) with
        | nil => exact .nothing
        | cons mark more =>
          rw [left] at stops
          exact .part ((endsAuthority_iff mark).1 (by simpa using stops)) more
      refine ⟨⟨mt String.ofList_eq_empty_iff.1 nonempty, by simpa using passed⟩,
        String.ofList before, String.ofList (rest.dropWhile (!endsAuthority ·)),
        by simpa using leads, by simpa using behind, ?_⟩
      apply String.toList_injective
      rw [split, slashes]
      simp [List.takeWhile_append_dropWhile]

/-- A URL has a location if and only if the grammar cuts it out of the URL. It cuts out at most one,
the same one whatever stands in front of the slashes and behind the location. -/
theorem networkLocation?_by_grammar (url location : String) :
    (networkLocation? url = some location ↔ Locates url location) ∧
      (∀ other, Locates url location → Locates url other → other = location) ∧
      ∀ before behind : String, IsLocation location → Leads before.toList →
        Follows behind.toList →
        networkLocation? (before ++ "//" ++ location ++ behind) = some location := by
  have found {location : String} (locates : Locates url location) :
      networkLocation? url = some location := by
    obtain ⟨isLocation, before, behind, leads, follows, rfl⟩ := locates
    exact networkLocation?_of_parts isLocation leads follows
  refine ⟨⟨locates_of_networkLocation?, found⟩, fun other locates locatesOther => ?_,
    fun before behind isLocation leads follows =>
      networkLocation?_of_parts isLocation leads follows⟩
  have same := (found locatesOther).symm.trans (found locates)
  exact Option.some.inj same

/-- The colons of a password and of an address in brackets, and slashes in a query. -/
theorem networkLocation?_by_grammar_of_brackets :
    Locates "svn+ssh://u:p@[::1]:80?to=//x" "u:p@[::1]:80" ∧
      networkLocation? "svn+ssh://u:p@[::1]:80?to=//x" = some "u:p@[::1]:80" := by
  obtain ⟨letter, others⟩ := (isScheme_cons_iff 's' "vn+ssh".toList).1 (by decide)
  have leads : Leads "svn+ssh:".toList := .scheme letter others
  have follows : Follows "?to=//x".toList := @Follows.part '?' (by decide) "to=//x".toList
  have location : IsLocation "u:p@[::1]:80" := ⟨by decide, List.all_iff_forall_prop.1 (by decide)⟩
  have locates : Locates "svn+ssh://u:p@[::1]:80?to=//x" "u:p@[::1]:80" :=
    ⟨location, "svn+ssh:", "?to=//x", leads, follows, by decide⟩
  exact ⟨locates, (networkLocation?_by_grammar _ _).1.2 locates⟩

end CloudAudit
