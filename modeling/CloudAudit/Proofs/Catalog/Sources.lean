import CloudAudit.Audit
import CloudAudit.Proofs.Literal.Verbatim

/-! The texts that the values of a literal came from show in faults only: whether a literal is a
catalog, and which one, does not depend on them. -/
namespace CloudAudit.Catalog

open Literal (plain plainMember plainItems_eq_map plainMembers_eq_map)

section Answers

variable {ε α β γ : Type}

theorem toOption_eq_some_iff {answer : Except ε α} {value : α} :
    answer.toOption = some value ↔ answer = .ok value := by
  cases answer with
  | error => exact iff_of_false nofun nofun
  | ok => exact ⟨fun | rfl => rfl, fun | rfl => rfl⟩

theorem toOption_eq_none_iff {answer : Except ε α} :
    answer.toOption = none ↔ ∃ error, answer = .error error := by
  cases answer with
  | error error => exact iff_of_true rfl ⟨error, rfl⟩
  | ok => exact iff_of_false nofun nofun

theorem toOption_bind (first : Except ε α) (next : α → Except ε β) :
    (first >>= next).toOption = first.toOption.bind fun value => (next value).toOption := by
  cases first <;> rfl

theorem toOption_bind_congr {first other : Except ε α} (same : first.toOption = other.toOption)
    {next further : α → Except ε β}
    (behind : ∀ value, (next value).toOption = (further value).toOption) :
    (first >>= next).toOption = (other >>= further).toOption := by
  rw [toOption_bind, toOption_bind, same]
  exact congrArg _ (funext behind)

theorem toOption_map (f : α → β) (answer : Except ε α) :
    (f <$> answer).toOption = answer.toOption.map f := by
  cases answer <;> rfl

theorem toOption_mapError (f : ε → γ) (answer : Except ε α) :
    (answer.mapError f).toOption = answer.toOption := by
  cases answer <;> rfl

theorem toOption_foldlM (step : β → α → Except ε β) (items : List α) (start : β) :
    (items.foldlM step start).toOption =
      items.foldlM (fun held item => (step held item).toOption) start := by
  induction items generalizing start with
  | nil => rfl
  | cons item rest ih =>
    rw [List.foldlM_cons, List.foldlM_cons, toOption_bind]
    exact congrArg _ (funext ih)

theorem toOption_mapM (read : α → Except ε β) (items : List α) :
    (items.mapM read).toOption = items.mapM fun item => (read item).toOption := by
  induction items with
  | nil => rfl
  | cons item rest ih =>
    rw [List.mapM_cons, List.mapM_cons, toOption_bind]
    refine congrArg _ (funext fun value => ?_)
    rw [toOption_bind, ih]
    rfl

end Answers

theorem toOption_meaning {α : Type} (source : List Char) (result : Except Literal.Fault α) :
    (meaning source result).toOption = result.toOption :=
  toOption_mapError _ result

theorem toOption_refuse {α : Type} (expected : Expected) (literal : Literal) :
    (refuse expected literal : Except Fault α).toOption = none := by
  rw [refuse, toOption_bind]
  cases (found literal).toOption <;> rfl

theorem meaning_plain {α : Type} (source other : List Char) (result : Except Literal.Fault α) :
    (meaning source result).toOption = (meaning other result).toOption :=
  (toOption_meaning _ _).trans (toOption_meaning _ _).symm

theorem refuse_plain {α : Type} (expected : Expected) (literal other : Literal) :
    (refuse expected literal : Except Fault α).toOption =
      (refuse expected other : Except Fault α).toOption :=
  (toOption_refuse _ _).trans (toOption_refuse _ _).symm

theorem readString_plain (literal : Literal) :
    (readString literal.plain).toOption = (readString literal).toOption := by
  cases literal with
  | string source pieces => exact meaning_plain _ _ _
  | null | bool | number | list | record => exact refuse_plain _ _ _

theorem readOptional_plain (literal : Literal) :
    (readOptional literal.plain).toOption = (readOptional literal).toOption := by
  have text := readString_plain literal
  cases literal with
  | null => rfl
  | bool | number | string | list | record =>
    have both (answer other : Except Fault String) (same : answer.toOption = other.toOption) :
        (some <$> answer).toOption = (some <$> other).toOption := by
      rw [toOption_map, toOption_map, same]
    exact both _ _ text

mutual

theorem passOver_plain : ∀ literal : Literal,
    (passOver literal.plain).toOption = (passOver literal).toOption
  | .null _ | .bool .. => rfl
  | .number _ _ | .string _ _ => toOption_bind_congr (meaning_plain _ _ _) fun _ => rfl
  | .list _ items => passOverItems_plain items
  | .record _ members => passOverMembers_plain members

theorem passOverItems_plain : ∀ items : List Literal,
    (passOverItems (Literal.plainItems items)).toOption = (passOverItems items).toOption
  | [] => rfl
  | item :: rest => toOption_bind_congr (passOver_plain item) fun _ => passOverItems_plain rest

theorem passOverMembers_plain : ∀ members : List (Literal.Key × Literal),
    (passOverMembers (Literal.plainMembers members)).toOption = (passOverMembers members).toOption
  | [] => rfl
  | (_, value) :: rest =>
    toOption_bind_congr (meaning_plain _ _ _) fun _ =>
      toOption_bind_congr (passOver_plain value) fun _ => passOverMembers_plain rest

end

theorem toOption_once {α : Type} (source : List Char) (name : String) (present : Option α)
    (read : Except Fault α) :
    (once source name present read).toOption =
      if present.isSome then none else read.toOption.map some := by
  cases present with
  | some => rfl
  | none => exact toOption_map some read

/-- A field is set where its value is read and it is not there yet. -/
theorem toOption_set {α δ : Type} (source : List Char) (name : String) (present : Option α)
    (read : Except Fault α) (set : Option α → δ) :
    (once source name present read >>= fun value => pure (set value)).toOption =
      if present.isSome then none else read.toOption.map fun value => set (some value) := by
  rw [toOption_bind, toOption_once]
  split
  · rfl
  · cases read.toOption <;> rfl

theorem mapM_plain {α : Type} {read : Literal → Except Fault α}
    (same : ∀ literal, (read literal.plain).toOption = (read literal).toOption)
    (items : List Literal) :
    ((Literal.plainItems items).mapM read).toOption = (items.mapM read).toOption := by
  rw [plainItems_eq_map, toOption_mapM, toOption_mapM, List.mapM_map]
  exact congrArg (List.mapM · items) (funext same)

theorem foldlM_plain {δ : Type} {add other : δ → Literal.Key × Literal → Except Fault δ}
    (same : ∀ draft member,
      (add draft (plainMember member)).toOption = (other draft member).toOption)
    (start : δ) (members : List (Literal.Key × Literal)) :
    ((Literal.plainMembers members).foldlM add start).toOption =
      (members.foldlM other start).toOption := by
  rw [plainMembers_eq_map, toOption_foldlM, toOption_foldlM, List.foldlM_map]
  exact congrArg (List.foldlM · start members) (funext fun draft => funext fun member =>
    same draft member)

theorem readNext_plain {α β : Type} {read : Literal → Except Fault α}
    (same : ∀ literal, (read literal.plain).toOption = (read literal).toOption) (default : α)
    {next other : α × List Literal → Except Fault β}
    (behind : ∀ value rest,
      (next (value, Literal.plainItems rest)).toOption = (other (value, rest)).toOption)
    (items : List Literal) :
    (readNext read default (Literal.plainItems items) >>= next).toOption =
      (readNext read default items >>= other).toOption := by
  cases items with
  | nil => exact behind default []
  | cons item rest =>
    have first {answer : Literal} {after : List Literal}
        {further : α × List Literal → Except Fault β} :
        (readNext read default (answer :: after) >>= further).toOption =
          (read answer).toOption.bind fun value => (further (value, after)).toOption := by
      rw [readNext, toOption_bind, toOption_bind]
      cases (read answer).toOption <;> rfl
    rw [Literal.plainItems, first, first, same]
    exact congrArg _ (funext fun value => behind value rest)

theorem endpointOfItems_plain (items : List Literal) :
    (endpointOfItems (Literal.plainItems items)).toOption = (endpointOfItems items).toOption := by
  rw [endpointOfItems, endpointOfItems]
  refine readNext_plain readOptional_plain none (fun id items => ?_) items
  refine readNext_plain readOptional_plain none (fun adminUrl items => ?_) items
  refine readNext_plain readOptional_plain none (fun internalUrl items => ?_) items
  exact readNext_plain readOptional_plain none (fun publicUrl items => rfl) items

theorem addMember_endpoint_plain (source other : List Char) (draft : EndpointDraft)
    (member : Literal.Key × Literal) :
    (EndpointDraft.addMember source draft (plainMember member)).toOption =
      (EndpointDraft.addMember other draft member).toOption := by
  refine toOption_bind_congr (meaning_plain _ _ _) fun name => ?_
  dsimp only
  split_ifs
  case neg => exact toOption_bind_congr (passOver_plain member.2) fun _ => rfl
  all_goals
    rw [toOption_set, toOption_set]
    exact congrArg _ (congrArg _ (readOptional_plain member.2))

theorem readEndpoint_plain (literal : Literal) :
    (readEndpoint literal.plain).toOption = (readEndpoint literal).toOption := by
  cases literal with
  | record source members =>
    exact toOption_bind_congr (foldlM_plain (addMember_endpoint_plain [] source) {} members)
      fun _ => rfl
  | list source items => exact endpointOfItems_plain items
  | null | bool | number | string => exact refuse_plain _ _ _

theorem readEndpoints_plain (literal : Literal) :
    (readEndpoints literal.plain).toOption = (readEndpoints literal).toOption := by
  cases literal with
  | list source items => exact mapM_plain readEndpoint_plain items
  | null | bool | number | string | record => exact refuse_plain _ _ _

theorem addMember_entry_plain (source other : List Char) (draft : EntryDraft)
    (member : Literal.Key × Literal) :
    (EntryDraft.addMember source draft (plainMember member)).toOption =
      (EntryDraft.addMember other draft member).toOption := by
  refine toOption_bind_congr (meaning_plain _ _ _) fun name => ?_
  split_ifs
  case neg => exact toOption_bind_congr (passOver_plain member.2) fun _ => rfl
  all_goals
    rw [toOption_set, toOption_set]
    refine congrArg _ (congrArg _ ?_)
    first
    | exact readString_plain member.2
    | exact readEndpoints_plain member.2

theorem entryOfItems_plain (items : List Literal) :
    (entryOfItems (Literal.plainItems items)).toOption = (entryOfItems items).toOption := by
  rw [entryOfItems, entryOfItems]
  refine readNext_plain readString_plain unknownText (fun serviceType items => ?_) items
  refine readNext_plain readString_plain unknownText (fun name items => ?_) items
  exact readNext_plain readEndpoints_plain [] (fun endpoints items => rfl) items

theorem readEntry_plain (literal : Literal) :
    (readEntry literal.plain).toOption = (readEntry literal).toOption := by
  cases literal with
  | record source members =>
    exact toOption_bind_congr (foldlM_plain (addMember_entry_plain [] source) {} members)
      fun _ => rfl
  | list source items => exact entryOfItems_plain items
  | null | bool | number | string => exact refuse_plain _ _ _

theorem ofLiteral_plain (literal : Literal) :
    (ofLiteral literal.plain).toOption = (ofLiteral literal).toOption := by
  cases literal with
  | list source items =>
    have entries := mapM_plain readEntry_plain items
    exact (toOption_map _ _).trans ((congrArg _ entries).trans (toOption_map _ _).symm)
  | null | bool | number | string | record => exact refuse_plain _ _ _

theorem toOption_parse (text : String) :
    (parse text).toOption =
      ((Literal.read? text.toList).map plain).bind fun literal => (ofLiteral literal).toOption := by
  rw [parse]
  cases Literal.read? text.toList with
  | none => rfl
  | some literal => exact (toOption_mapError _ _).trans (ofLiteral_plain literal).symm

/-- The catalog that a JSON text is read as, if it is read as one, by what is written in it. -/
theorem parse_of_records {written : Json} {text : String} (records : written.Records text)
    (onLines : written.OnLines) :
    (parse text).toOption = (ofLiteral (Literal.copy written)).toOption := by
  obtain ⟨literal, read, same⟩ := Literal.read?_of_records records onLines
  rw [toOption_parse, read, ← same]
  rfl

theorem parse_off_line {written : Json} {text : String} (records : written.Records text)
    (off : ¬ written.OnLines) : parse text = .error .notALiteral := by
  rw [parse, Literal.read?_off_line records off]

theorem target_of_same {text other : String} (same : (parse text).toOption = (parse other).toOption)
    (map : AuditMap) (request : AuditRequest) :
    map.target { request with serviceCatalog := some text } =
      map.target { request with serviceCatalog := some other } := by
  cases parsed : parse other with
  | ok catalog =>
    rw [parsed] at same
    have first := toOption_eq_some_iff.1 same
    rw [map.target_of_read rfl first, map.target_of_read rfl parsed]
  | error fault =>
    rw [parsed] at same
    obtain ⟨_, first⟩ := toOption_eq_none_iff.1 same
    rw [map.target_of_unread rfl first, map.target_of_unread rfl parsed]

end CloudAudit.Catalog
