import CloudAudit.Proofs.Catalog.Acceptance
import CloudAudit.Proofs.Catalog.Sources

/-! Members that a catalog does not know. What they hold is passed over and the catalog stays the
same, as long as every value in it can be represented; one that cannot be leaves no catalog. -/
namespace CloudAudit.Catalog

open Literal (copy copyMember piecesOf)

section Replacement

variable {α β δ : Type}

inductive Replaced (R : α → α → Prop) : List α → List α → Prop
  | item {one other : α} (before after : List α) (replaced : R one other) :
    Replaced R (before ++ one :: after) (before ++ other :: after)

theorem Replaced.forall_iff {R : α → α → Prop} {P : α → Prop} {Q : Prop} {items others : List α}
    (replaced : Replaced R items others) (each : ∀ one other, R one other → (P other ↔ P one ∧ Q)) :
    (∀ other ∈ others, P other) ↔ (∀ one ∈ items, P one) ∧ Q := by
  obtain ⟨before, after, replaced⟩ := replaced
  simp only [List.forall_mem_append, List.forall_mem_cons, each _ _ replaced]
  tauto

/-- What is skipped has an answer of its own, and without one there is no other. -/
theorem mapM_of_replaced {R : α → α → Prop} {read : α → Option β} {skip : Option Unit}
    {items others : List α} (replaced : Replaced R items others)
    (each : ∀ one ∈ items, ∀ other, R one other → read other = skip.bind fun _ => read one) :
    others.mapM read = skip.bind fun _ => items.mapM read := by
  obtain ⟨before, after, replaced⟩ := replaced
  have here := each _ (List.mem_append_right _ (.head _)) _ replaced
  rw [List.mapM_append, List.mapM_cons, here, List.mapM_append, List.mapM_cons]
  cases skip with
  | none => cases before.mapM read <;> rfl
  | some => rfl

theorem foldlM_of_replaced {R : α → α → Prop} {step : δ → α → Option δ} {skip : Option Unit}
    {items others : List α} (replaced : Replaced R items others)
    (each : ∀ one ∈ items, ∀ other, R one other → ∀ draft,
      step draft other = skip.bind fun _ => step draft one) (start : δ) :
    others.foldlM step start = skip.bind fun _ => items.foldlM step start := by
  obtain ⟨before, after, replaced⟩ := replaced
  have here := each _ (List.mem_append_right _ (.head _)) _ replaced
  simp only [List.foldlM_append, List.foldlM_cons, here]
  cases skip with
  | none => cases before.foldlM step start <;> rfl
  | some => rfl

theorem foldlM_of_inserted (step : δ → α → Option δ) {skip : Option Unit} {new : α}
    (skips : ∀ draft, step draft new = skip.map fun _ => draft) (before after : List α)
    (start : δ) :
    (before ++ new :: after).foldlM step start =
      skip.bind fun _ => (before ++ after).foldlM step start := by
  simp only [List.foldlM_append, List.foldlM_cons, skips]
  cases skip with
  | none => cases before.foldlM step start <;> rfl
  | some => rfl

end Replacement

/-- Strings are on one line and mean a text, and numbers are in range. -/
def Representable : Json.Word → Prop
  | .name inner | .atom (.string inner) => Json.OnLine inner ∧ ∃ text, Json.Says inner text
  | .atom (.number text) =>
    ∀ numeral, Json.WritesNumeral numeral text.toList → Literal.InRange numeral text.toList
  | _ => True

instance : DecidablePred Representable
  | .name inner | .atom (.string inner) =>
    inferInstanceAs (Decidable (Json.OnLine inner ∧ ∃ text, Json.Says inner text))
  | .atom (.number text) =>
    inferInstanceAs (Decidable (∀ numeral, Json.WritesNumeral numeral text.toList →
      Literal.InRange numeral text.toList))
  | .atom .null | .atom (.bool _) | .atom (.array _) | .atom (.object _) => isTrue trivial

theorem representable_text {word : Json.Word} (representable : Representable word) :
    ∀ inner ∈ word.text?, Json.OnLine inner := by
  intro inner isText
  cases word with
  | name =>
    cases isText
    exact representable.1
  | atom value =>
    cases value <;> cases isText
    exact representable.1

theorem meaning_eq_ok_iff {α : Type} {source : List Char} {result : Except Literal.Fault α}
    {value : α} : meaning source result = .ok value ↔ result = .ok value := by
  cases result with
  | error => exact iff_of_false nofun nofun
  | ok => exact ⟨fun | rfl => rfl, fun | rfl => rfl⟩

theorem andThen_eq_ok_iff {α β : Type} {first : Except Fault α} {next : Except Fault β}
    {result : β} :
    (first >>= fun _ => next) = .ok result ↔ (∃ value, first = .ok value) ∧ next = .ok result := by
  rw [bind_eq_ok_iff, exists_and_right]

theorem andThen_pure_eq_ok_iff {α : Type} {first : Except Fault α} :
    (first >>= fun _ => pure ()) = .ok () ↔ ∃ value, first = .ok value :=
  andThen_eq_ok_iff.trans (and_iff_left rfl)

theorem passOver_isOk_iff {literal : Literal} :
    (∃ value, passOver literal = .ok value) ↔ passOver literal = .ok () :=
  ⟨fun ⟨_, passed⟩ => passed, fun passed => ⟨(), passed⟩⟩

theorem passOverItems_copy_eq_ok_iff {items : List Json} :
    passOverItems (Literal.copyItems items) = .ok () ↔
      ∀ item ∈ items, passOver (copy item) = .ok () := by
  induction items with
  | nil => exact iff_of_true rfl nofun
  | cons item rest ih =>
    rw [Literal.copyItems, passOverItems, andThen_eq_ok_iff, passOver_isOk_iff, ih,
      List.forall_mem_cons]

theorem passOverMembers_copy_eq_ok_iff {members : List (String × Json)} :
    passOverMembers (Literal.copyMembers members) = .ok () ↔
      ∀ member ∈ members,
        (∃ text, Literal.stringOfPieces (piecesOf member.1.toList) = .ok text) ∧
          passOver (copy member.2) = .ok () := by
  induction members with
  | nil => exact iff_of_true rfl nofun
  | cons member rest ih =>
    rw [Literal.copyMembers, passOverMembers, andThen_eq_ok_iff, andThen_eq_ok_iff,
      passOver_isOk_iff, ih, List.forall_mem_cons, and_assoc]
    simp only [readKey, meaning_eq_ok_iff]

/-- A value is passed over if it can be represented. -/
theorem passOver_copy_eq_ok_iff {json : Json} (wellFormed : json.AllWords Json.WellFormed)
    (onLines : json.OnLines) : passOver (copy json) = .ok () ↔ json.AllWords Representable := by
  induction json using Json.inside with
  | atom json atom =>
    rw [Json.allWords_of_isAtom atom] at wellFormed ⊢
    have onLine := (Json.allWords_of_isAtom atom).1 onLines
    cases json with
    | null | bool => exact iff_of_true rfl trivial
    | number text =>
      obtain ⟨numeral, writes⟩ := wellFormed.1
      rw [copy, passOver, andThen_pure_eq_ok_iff]
      simp only [meaning_eq_ok_iff]
      rw [Literal.ofText_isOk_iff writes]
      constructor
      · intro inRange other writesOther
        rwa [writesOther.unique writes]
      · exact fun representable => representable numeral writes
    | string inner =>
      have isInner := wellFormed.2 inner rfl
      rw [copy, passOver, andThen_pure_eq_ok_iff]
      simp only [meaning_eq_ok_iff]
      rw [Literal.stringOfPieces_isOk_iff isInner (onLine inner rfl)]
      exact (and_iff_right (onLine inner rfl)).symm
    | array | object => cases atom
  | array items ih =>
    rw [Json.allWords_array] at wellFormed ⊢
    have onLines := Json.allWords_array.1 onLines
    rw [copy, passOver, passOverItems_copy_eq_ok_iff]
    exact forall₂_congr fun item inside => ih item inside (wellFormed item inside)
      (onLines item inside)
  | object members ih =>
    rw [Json.allWords_object] at wellFormed ⊢
    have onLines := Json.allWords_object.1 onLines
    rw [copy, passOver, passOverMembers_copy_eq_ok_iff]
    refine forall₂_congr fun member inside => ?_
    obtain ⟨named, within⟩ := wellFormed member inside
    obtain ⟨onLine, others⟩ := onLines member inside
    rw [ih member inside within others,
      Literal.stringOfPieces_isOk_iff (named.2 _ rfl) (onLine _ rfl)]
    exact and_congr_left' (and_iff_right (onLine _ rfl)).symm

def entryNames : List String := ["type", "name", "endpoints"]

/-- An object with one member more, whose name means none of the known ones. -/
inductive Inserted (known : List String) (new : String × Json) : Json → Json → Prop
  | member (before after : List (String × Json))
    (unknown : ∀ name ∈ known, ¬ Json.Says new.1 name) :
    Inserted known new (.object (before ++ after)) (.object (before ++ new :: after))

structure InEndpoints (new member longer : String × Json) : Prop where
  called : Json.Says member.1 "endpoints"
  same : longer.1 = member.1
  inside : ∃ items others, member.2 = .array items ∧ longer.2 = .array others ∧
    Replaced (Inserted addressNames new) items others

inductive InEntry (new : String × Json) : Json → Json → Prop
  | entry {entry longer : Json} (inserted : Inserted entryNames new entry longer) :
    InEntry new entry longer
  | endpoint {members others : List (String × Json)}
    (replaced : Replaced (InEndpoints new) members others) :
    InEntry new (.object members) (.object others)

/-- One entry of a catalog, or one endpoint of an entry, has one member more. -/
inductive Extends (new : String × Json) : Json → Json → Prop
  | items {items others : List Json} (replaced : Replaced (InEntry new) items others) :
    Extends new (.array items) (.array others)

section Words

variable {new : String × Json} {P : Json.Word → Prop}

theorem Inserted.allWords_iff {known : List String} {one other : Json}
    (inserted : Inserted known new one other) :
    other.AllWords P ↔ one.AllWords P ∧ (Json.object [new]).AllWords P := by
  obtain ⟨before, after, _⟩ := inserted
  simp only [Json.allWords_object, List.forall_mem_append, List.forall_mem_cons]
  tauto

theorem InEndpoints.allWords_iff {member longer : String × Json}
    (replaced : InEndpoints new member longer) :
    (P (.name longer.1) ∧ longer.2.AllWords P) ↔
      (P (.name member.1) ∧ member.2.AllWords P) ∧ (Json.object [new]).AllWords P := by
  obtain ⟨_, same, items, others, listed, listing, replaced⟩ := replaced
  rw [same, listed, listing, Json.allWords_array, Json.allWords_array, and_assoc,
    replaced.forall_iff fun _ _ inserted => inserted.allWords_iff]

theorem InEntry.allWords_iff {one other : Json} (replaced : InEntry new one other) :
    other.AllWords P ↔ one.AllWords P ∧ (Json.object [new]).AllWords P := by
  cases replaced with
  | entry inserted => exact inserted.allWords_iff
  | endpoint replaced =>
    rw [Json.allWords_object, Json.allWords_object]
    exact replaced.forall_iff fun _ _ replaced => replaced.allWords_iff

theorem Extends.allWords_iff {written longer : Json} (extended : Extends new written longer) :
    longer.AllWords P ↔ written.AllWords P ∧ (Json.object [new]).AllWords P := by
  obtain ⟨replaced⟩ := extended
  rw [Json.allWords_array, Json.allWords_array]
  exact replaced.forall_iff fun _ _ replaced => replaced.allWords_iff

end Words

def ReadableName (name : String) : Prop := Json.IsInner name.toList ∧ Json.OnLine name

theorem readKey_copy_eq_ok_iff {member : String × Json} (readable : ReadableName member.1)
    {text : String} (basic : Literal.Basic text) :
    readKey (copyMember member).1 = .ok text ↔ Json.Says member.1 text := by
  rw [readKey, meaning_eq_ok_iff]
  exact Literal.stringOfPieces_eq_ok_iff readable.1 readable.2 basic

def skipped (new : String × Json) : Option Unit := (passOver (copy (.object [new]))).toOption

section Skipping

variable {new : String × Json} (readable : ReadableName new.1)

theorem skipped_eq : skipped new =
    (readKey (copyMember new).1).toOption.bind fun _ => (passOver (copy new.2)).toOption := by
  rw [skipped, copy, passOver, Literal.copyMembers, passOverMembers, toOption_bind]
  refine congrArg _ (funext fun _ => ?_)
  rw [toOption_bind, Literal.copyMembers, passOverMembers]
  cases (passOver (copy new.2)).toOption <;> rfl

include readable

theorem skips_unknown {δ : Type} {known : List String}
    (basic : ∀ name ∈ known, Literal.Basic name)
    (unknown : ∀ name ∈ known, ¬ Json.Says new.1 name) {next : String → Except Fault δ} {draft : δ}
    (passes : ∀ name ∉ known, next name = passOver (copy new.2) >>= fun _ => pure draft) :
    (readKey (copyMember new).1 >>= next).toOption = (skipped new).map fun _ => draft := by
  rw [toOption_bind, skipped_eq]
  cases key : readKey (copyMember new).1 with
  | error => rfl
  | ok name =>
    have other : name ∉ known := fun listed =>
      unknown name listed ((readKey_copy_eq_ok_iff readable (basic name listed)).1 key)
    show (next name).toOption = ((passOver (copy new.2)).toOption).map _
    rw [passes name other, toOption_bind]
    cases (passOver (copy new.2)).toOption <;> rfl

omit readable in
/-- A record is read as if the new member was not there, if that is skipped wherever it stands. -/
theorem record_inserted {δ γ : Type} {add : δ → Literal.Key × Literal → Except Fault δ}
    {finish : δ → γ}
    (skips : ∀ draft, (add draft (copyMember new)).toOption = (skipped new).map fun _ => draft)
    (before after : List (String × Json)) (start : δ) :
    (finish <$> (Literal.copyMembers (before ++ new :: after)).foldlM add start).toOption =
      (skipped new).bind fun _ =>
        (finish <$> (Literal.copyMembers (before ++ after)).foldlM add start).toOption := by
  have folded := foldlM_of_inserted (fun draft member => (add draft member).toOption) skips
    (before.map copyMember) (after.map copyMember) start
  simp only [toOption_map, toOption_foldlM, Literal.copyMembers_eq_map, List.map_append,
    List.map_cons]
  rw [folded, Option.map_bind]
  rfl

theorem readEndpoint_inserted {one other : Json} (inserted : Inserted addressNames new one other) :
    (readEndpoint (copy other)).toOption =
      (skipped new).bind fun _ => (readEndpoint (copy one)).toOption := by
  obtain ⟨before, after, unknown⟩ := inserted
  have skips (draft : EndpointDraft) :
      (EndpointDraft.addMember [] draft (copyMember new)).toOption =
        (skipped new).map fun _ => draft := by
    refine skips_unknown readable (by decide) unknown fun name other => ?_
    simp only [addressNames, List.mem_cons, List.not_mem_nil, or_false, not_or] at other
    simp only [other, if_false]
    rfl
  exact record_inserted skips before after {}

theorem readEndpoints_replaced {items others : List Json}
    (replaced : Replaced (Inserted addressNames new) items others) :
    (readEndpoints (copy (.array others))).toOption =
      (skipped new).bind fun _ => (readEndpoints (copy (.array items))).toOption := by
  simp only [copy, readEndpoints, toOption_mapM, Literal.copyItems_eq_map, List.mapM_map]
  exact mapM_of_replaced replaced fun _ _ _ => readEndpoint_inserted readable

theorem addMember_replaced {member longer : String × Json}
    (replaced : InEndpoints new member longer) (readableName : ReadableName member.1)
    (draft : EntryDraft) :
    (EntryDraft.addMember [] draft (copyMember longer)).toOption =
      (skipped new).bind fun _ => (EntryDraft.addMember [] draft (copyMember member)).toOption := by
  obtain ⟨called, same, items, others, listed, listing, inside⟩ := replaced
  have key : readKey (copyMember member).1 = .ok "endpoints" :=
    (readKey_copy_eq_ok_iff readableName (by decide)).2 called
  have reads (pair : String × Json) (sameName : pair.1 = member.1) :
      (EntryDraft.addMember [] draft (copyMember pair)).toOption =
        if draft.endpoints.isSome then none
        else (readEndpoints (copy pair.2)).toOption.map fun endpoints =>
          { draft with endpoints := some endpoints } := by
    have keyHere : readKey (copyMember pair).1 = .ok "endpoints" := by
      rw [← key, copyMember, copyMember, sameName]
    rw [EntryDraft.addMember, keyHere]
    exact toOption_set _ _ _ _ fun endpoints => { draft with endpoints }
  rw [reads longer same, reads member rfl, listed, listing, readEndpoints_replaced readable inside]
  split
  · cases skipped new <;> rfl
  · rw [Option.map_bind]
    rfl

theorem readEntry_replaced {one other : Json} (replaced : InEntry new one other)
    (names : one.AllWords fun word => ∀ inner ∈ word.text?, ReadableName inner) :
    (readEntry (copy other)).toOption =
      (skipped new).bind fun _ => (readEntry (copy one)).toOption := by
  cases replaced with
  | entry inserted =>
    obtain ⟨before, after, unknown⟩ := inserted
    have skips (draft : EntryDraft) :
        (EntryDraft.addMember [] draft (copyMember new)).toOption =
          (skipped new).map fun _ => draft := by
      refine skips_unknown readable (by decide) unknown fun name other => ?_
      simp only [entryNames, List.mem_cons, List.not_mem_nil, or_false, not_or] at other
      simp only [other, if_false]
      rfl
    exact record_inserted skips before after {}
  | endpoint replaced =>
    rw [Json.allWords_object] at names
    simp only [copy, readEntry, toOption_bind, toOption_foldlM, Literal.copyMembers_eq_map,
      List.foldlM_map]
    rw [foldlM_of_replaced replaced fun member inside _ replaced =>
      addMember_replaced readable replaced ((names member inside).1 _ rfl), Option.bind_assoc]

theorem ofLiteral_extended {written longer : Json} (extended : Extends new written longer)
    (names : written.AllWords fun word => ∀ inner ∈ word.text?, ReadableName inner) :
    (ofLiteral (copy longer)).toOption =
      (skipped new).bind fun _ => (ofLiteral (copy written)).toOption := by
  obtain ⟨replaced⟩ := extended
  rw [Json.allWords_array] at names
  simp only [copy, ofLiteral, toOption_map, toOption_mapM, Literal.copyItems_eq_map, List.mapM_map,
    Function.comp_def]
  rw [mapM_of_replaced replaced fun item inside _ replaced =>
    readEntry_replaced readable replaced (names item inside), Option.map_bind]
  rfl

end Skipping

theorem target_of_malformed {text : String} {error : Error} (malformed : parse text = .error error)
    (map : AuditMap) {request : AuditRequest} (given : request.serviceCatalog = some text) :
    (map.target request).value = ⟨"unknown", "unknown", "unknown", []⟩ := by
  rw [map.target_of_unread given malformed]

section Extension

variable {new : String × Json} {written longer : Json} {text extended : String}
  (records : written.Records text) (recordsLonger : longer.Records extended)
  (extension : Extends new written longer)

include records recordsLonger extension

/-- Passing over the new member is all that can go wrong where the text has been read. -/
theorem toOption_parse_extended (onLines : longer.OnLines) :
    (parse extended).toOption = (skipped new).bind fun _ => (parse text).toOption := by
  obtain ⟨wellFormed, newWellFormed⟩ := extension.allWords_iff.1 recordsLonger.wellFormed
  obtain ⟨onLine, newOnLine⟩ := extension.allWords_iff.1 onLines
  have readable : ReadableName new.1 :=
    ⟨(Json.allWords_object.1 newWellFormed new (.head _)).1.2 _ rfl,
      (Json.allWords_object.1 newOnLine new (.head _)).1 _ rfl⟩
  rw [parse_of_records recordsLonger onLines, parse_of_records records onLine]
  exact ofLiteral_extended readable extension fun word inside inner isText =>
    ⟨(wellFormed word inside).2 inner isText, onLine word inside inner isText⟩

/-- A member that is not known leaves the catalog as it is if all that it holds can be represented.
If not, there is no catalog, and targets are unknown. -/
theorem parse_extended {catalog : Catalog} (parsed : parse text = .ok catalog) :
    ((Json.object [new]).AllWords Representable →
      parse extended = .ok catalog ∧
      ∀ (map : AuditMap) (request : AuditRequest),
        map.target { request with serviceCatalog := some extended } =
          map.target { request with serviceCatalog := some text }) ∧
    (¬ (Json.object [new]).AllWords Representable →
      (∃ error, parse extended = .error error) ∧
      ∀ (map : AuditMap) (request : AuditRequest), request.serviceCatalog = some extended →
        (map.target request).value = ⟨"unknown", "unknown", "unknown", []⟩) := by
  obtain ⟨_, newWellFormed⟩ := extension.allWords_iff.1 recordsLonger.wellFormed
  have onLine : written.OnLines := by
    by_contra off
    rw [parse_off_line records off] at parsed
    cases parsed
  constructor
  · intro representable
    have newOnLine : (Json.object [new]).OnLines :=
      fun word inside => representable_text (representable word inside)
    have skips := (passOver_copy_eq_ok_iff newWellFormed newOnLine).2 representable
    have same := toOption_parse_extended records recordsLonger extension
      (extension.allWords_iff.2 ⟨onLine, newOnLine⟩)
    rw [skipped, skips, parsed] at same
    have parsedLonger : parse extended = .ok catalog := toOption_eq_some_iff.1 same
    exact ⟨parsedLonger, target_of_same (congrArg _ (parsedLonger.trans parsed.symm))⟩
  · intro unrepresentable
    have malformed : ∃ error, parse extended = .error error := by
      by_cases newOnLine : (Json.object [new]).OnLines
      · have same := toOption_parse_extended records recordsLonger extension
          (extension.allWords_iff.2 ⟨onLine, newOnLine⟩)
        have fails := mt (passOver_copy_eq_ok_iff newWellFormed newOnLine).1 unrepresentable
        rw [← toOption_eq_some_iff] at fails
        cases skips : skipped new with
        | some => exact absurd skips fails
        | none =>
          rw [skips] at same
          exact toOption_eq_none_iff.1 same
      · have off : ¬ longer.OnLines := fun all => newOnLine (extension.allWords_iff.1 all).2
        exact ⟨_, parse_off_line recordsLonger off⟩
    obtain ⟨error, failed⟩ := malformed
    exact ⟨⟨error, failed⟩, fun map _ given => target_of_malformed failed map given⟩

end Extension

theorem parse_extended_by_zones :
    let written := Json.array [.object [("endpoints", .array [.object [("id", .string "c1")]])]]
    let new := ("zones", Json.array [.number "1", .object [("a", .null)]])
    let longer := Json.array [.object [("endpoints", .array [.object [new, ("id", .string "c1")]])]]
    let text := "[\x7b\"endpoints\":[\x7b\"id\":\"c1\"\x7d]\x7d]"
    let extended :=
      "[\x7b\"endpoints\":[\x7b\"zones\":[1,\x7b\"a\":null\x7d],\"id\":\"c1\"\x7d]\x7d]"
    let catalog := ⟨[⟨"unknown", "unknown", [⟨some "c1", none, none, none⟩]⟩]⟩
    written.Records text ∧ longer.Records extended ∧ Extends new written longer ∧
      parse text = .ok catalog ∧ parse extended = .ok catalog := by
  intro written new longer text extended catalog
  have records : written.Records text :=
    Json.records_of_eq_compact (by decide +kernel) (by decide +kernel) (by decide +kernel)
  have recordsLonger : longer.Records extended :=
    Json.records_of_eq_compact (by decide +kernel) (by decide +kernel) (by decide +kernel)
  have unknown : ∀ name ∈ addressNames, ¬ Json.Says new.1 name := by decide +kernel
  have inserted := Inserted.member [] [("id", .string "c1")] unknown
  have inEndpoints : InEndpoints new ("endpoints", .array [.object [("id", .string "c1")]])
      ("endpoints", .array [.object [new, ("id", .string "c1")]]) :=
    ⟨by decide +kernel, rfl, _, _, rfl, rfl, .item [] [] inserted⟩
  have extension : Extends new written longer :=
    .items (.item [] [] (.endpoint (.item [] [] inEndpoints)))
  have parsed : parse text = .ok catalog := toOption_eq_some_iff.1 (by decide +kernel)
  have representable : (Json.object [new]).AllWords Representable := by decide +kernel
  exact ⟨records, recordsLonger, extension, parsed,
    ((parse_extended records recordsLonger extension parsed).1 representable).1⟩

/-- A quota that takes more than 64 bits, in one service, and no catalog is read. -/
theorem unread_of_large_quota :
    let written := Json.array [.object [("type", .string "compute")]]
    let new := ("quota", Json.number "99999999999999999999")
    let longer := Json.array [.object [("type", .string "compute"), new]]
    let text := "[\x7b\"type\":\"compute\"\x7d]"
    let extended := "[\x7b\"type\":\"compute\",\"quota\":99999999999999999999\x7d]"
    written.Records text ∧ longer.Records extended ∧ Extends new written longer ∧
      parse text = .ok ⟨[⟨"compute", "unknown", []⟩]⟩ ∧
      ∀ catalog, parse extended ≠ .ok catalog := by
  intro written new longer text extended
  have records : written.Records text :=
    Json.records_of_eq_compact (by decide +kernel) (by decide +kernel) (by decide +kernel)
  have recordsLonger : longer.Records extended :=
    Json.records_of_eq_compact (by decide +kernel) (by decide +kernel) (by decide +kernel)
  have unknown : ∀ name ∈ entryNames, ¬ Json.Says new.1 name := by decide +kernel
  have extension : Extends new written longer :=
    .items (.item [] [] (.entry (.member [("type", .string "compute")] [] unknown)))
  have parsed : parse text = .ok ⟨[⟨"compute", "unknown", []⟩]⟩ :=
    toOption_eq_some_iff.1 (by decide +kernel)
  have failed : (parse extended).toOption = none := by decide +kernel
  refine ⟨records, recordsLonger, extension, parsed, fun catalog found => ?_⟩
  rw [found] at failed
  cases failed

end CloudAudit.Catalog
