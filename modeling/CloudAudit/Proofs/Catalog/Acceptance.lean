import CloudAudit.Audit
import CloudAudit.Proofs.Catalog.Reading
import CloudAudit.Proofs.Json.LaidOut
import CloudAudit.Proofs.Literal.Integer
import Mathlib.Data.List.Nodup

/-! Which documents are catalogs. Every field of every entry and of every endpoint stands at most
once and holds what it may, members of other names are free, and one record that breaks this makes
the whole document none. -/
namespace CloudAudit

open Outline

namespace Catalog

open Literal (Named Means MeansMember)

def textOf? : Json → Option String
  | .string text => some text
  | _ => none

def IsText (json : Json) : Prop := ∃ text, json = .string text

def IsAddress (json : Json) : Prop := json = .null ∨ IsText json

structure Slot where
  name : String
  holds : Json → Prop

/-- Members of other names are passed over. -/
structure Fits (slots : List Slot) (members : List (String × Json)) : Prop where
  once : ∀ slot ∈ slots, (members.map Prod.fst).count slot.name ≤ 1
  values : ∀ slot ∈ slots, ∀ value, (slot.name, value) ∈ members → slot.holds value

def addressNames : List String := ["id", "adminURL", "internalURL", "publicURL"]

def endpointSlots : List Slot := addressNames.map fun name => ⟨name, IsAddress⟩

def IsEndpoint (json : Json) : Prop :=
  ∃ members, json = .object members ∧ Fits endpointSlots members

def IsEndpoints (json : Json) : Prop :=
  ∃ items, json = .array items ∧ ∀ item ∈ items, IsEndpoint item

def entrySlots : List Slot :=
  [⟨"type", IsText⟩, ⟨"name", IsText⟩, ⟨"endpoints", IsEndpoints⟩]

def IsEntry (members : List (String × Json)) : Prop := Fits entrySlots members

def textIn (name : String) (members : List (String × Json)) : Option String :=
  (members.lookup name).bind textOf?

def endpointOf : Json → Endpoint
  | .object members =>
    ⟨textIn "id" members, textIn "adminURL" members, textIn "internalURL" members,
      textIn "publicURL" members⟩
  | _ => {}

def endpointsOf : Json → List Endpoint
  | .array items => items.map endpointOf
  | _ => []

def entryOf (members : List (String × Json)) : CatalogEntry where
  serviceType := (textIn "type" members).getD "unknown"
  name := (textIn "name" members).getD "unknown"
  endpoints := ((members.lookup "endpoints").map endpointsOf).getD []

theorem Fits.nil (slots : List Slot) : Fits slots [] := by
  constructor <;> simp

theorem Fits.of_append {slots : List Slot} {seen more : List (String × Json)}
    (fits : Fits slots (seen ++ more)) : Fits slots seen where
  once slot listed := by
    have whole := fits.once slot listed
    rw [List.map_append, List.count_append] at whole
    omega
  values slot listed value inside := fits.values slot listed value (List.mem_append_left _ inside)

theorem fits_append_singleton {slots : List Slot} {seen : List (String × Json)} {name : String}
    {json : Json} :
    Fits slots (seen ++ [(name, json)]) ↔
      Fits slots seen ∧
        ∀ slot ∈ slots, slot.name = name → name ∉ seen.map Prod.fst ∧ slot.holds json := by
  constructor
  · intro fits
    refine ⟨fits.of_append, ?_⟩
    rintro slot listed rfl
    have whole := fits.once slot listed
    rw [List.map_append, List.count_append, List.map_singleton, List.count_singleton_self] at whole
    exact ⟨List.count_eq_zero.1 (by omega), fits.values slot listed json (by simp)⟩
  · rintro ⟨fits, next⟩
    refine ⟨fun slot listed => ?_, fun slot listed value inside => ?_⟩
    · rw [List.map_append, List.count_append, List.map_singleton]
      by_cases same : slot.name = name
      · have fresh := (next slot listed same).1
        rw [same, List.count_eq_zero.2 fresh, List.count_singleton_self]
      · have one := fits.once slot listed
        rw [List.count_singleton, if_neg (by simpa using Ne.symm same)]
        omega
    · rcases List.mem_append.1 inside with earlier | last
      · exact fits.values slot listed value earlier
      · cases List.mem_singleton.1 last
        exact (next slot listed rfl).2

theorem fits_append_slot {slots : List Slot} {seen : List (String × Json)}
    (fits : Fits slots seen) (distinct : (slots.map Slot.name).Nodup) (slot : Slot)
    (listed : slot ∈ slots) (json : Json) :
    Fits slots (seen ++ [(slot.name, json)]) ↔
      slot.name ∉ seen.map Prod.fst ∧ slot.holds json := by
  rw [fits_append_singleton, and_iff_right fits]
  constructor
  · exact fun next => next slot listed rfl
  · intro next other inside same
    cases List.inj_on_of_nodup_map distinct inside listed same
    exact next

theorem fits_append_other {slots : List Slot} {seen : List (String × Json)}
    (fits : Fits slots seen) {name : String} (other : name ∉ slots.map Slot.name) (json : Json) :
    Fits slots (seen ++ [(name, json)]) := by
  refine fits_append_singleton.2 ⟨fits, ?_⟩
  rintro slot listed rfl
  exact absurd (List.mem_map_of_mem listed) other

theorem bind_eq_ok_iff {ε α β : Type} {first : Except ε α} {next : α → Except ε β} {result : β} :
    first >>= next = .ok result ↔ ∃ value, first = .ok value ∧ next value = .ok result := by
  cases first <;> simp [bind, Except.bind]

theorem map_eq_ok_iff {ε α β : Type} {f : α → β} {first : Except ε α} {result : β} :
    f <$> first = .ok result ↔ ∃ value, first = .ok value ∧ f value = result := by
  cases first <;> simp [Functor.map, Except.map]

/-- Records are read member by member, as long as what has been read fits. -/
theorem foldlM_eq_ok_iff {δ : Type} {slots : List Slot} {readable : String × Json → Prop}
    {draft : List (String × Json) → δ} {add : δ → Literal.Key × Literal → Except Fault δ}
    (adds : ∀ {seen name json key literal next}, Fits slots seen → readable (name, json) →
      Named name key → Means json literal →
      (add (draft seen) (key, literal) = .ok next ↔
        Fits slots (seen ++ [(name, json)]) ∧ next = draft (seen ++ [(name, json)])))
    {members : List (String × Json)} {pairs : List (Literal.Key × Literal)}
    (meant : List.Forall₂ MeansMember members pairs) (known : ∀ member ∈ members, readable member)
    {seen : List (String × Json)} (fits : Fits slots seen) {final : δ} :
    pairs.foldlM add (draft seen) = .ok final ↔
      Fits slots (seen ++ members) ∧ final = draft (seen ++ members) := by
  induction meant generalizing seen with
  | nil =>
    rw [List.append_nil, List.foldlM_nil]
    constructor
    · rintro ⟨⟩
      exact ⟨fits, rfl⟩
    · rintro ⟨_, rfl⟩
      rfl
  | @cons member pair members pairs head _ ih =>
    obtain ⟨named, means⟩ := head
    rename_i name key json literal
    have step := @adds seen name json key literal
    have split : seen ++ (name, json) :: members = seen ++ [(name, json)] ++ members := by simp
    rw [List.foldlM_cons, split]
    by_cases next : Fits slots (seen ++ [(name, json)])
    · rw [(step fits (known _ (.head _)) named means).2 ⟨next, rfl⟩]
      exact ih (fun member inside => known member (.tail _ inside)) next
    · constructor
      · intro folded
        obtain ⟨draft, added, _⟩ := bind_eq_ok_iff.1 folded
        exact absurd ((step fits (known _ (.head _)) named means).1 added).1 next
      · rintro ⟨whole, _⟩
        exact absurd whole.of_append next

theorem mapM_eq_ok_iff {ε α β γ : Type} {means : α → γ → Prop} {accepts : α → Prop} {value : α → β}
    {read : γ → Except ε β} {items : List α} {literals : List γ}
    (meant : List.Forall₂ means items literals)
    (each : ∀ item ∈ items, ∀ {literal result}, means item literal →
      (read literal = .ok result ↔ accepts item ∧ result = value item)) {results : List β} :
    literals.mapM read = .ok results ↔
      (∀ item ∈ items, accepts item) ∧ results = items.map value := by
  induction meant generalizing results with
  | nil =>
    rw [List.mapM_nil]
    constructor
    · rintro ⟨⟩
      exact ⟨nofun, rfl⟩
    · rintro ⟨_, rfl⟩
      rfl
  | cons head _ ih =>
    have first {result} := @each _ (.head _) _ result head
    have rest {results} := @ih (fun item inside => each item (.tail _ inside)) results
    rw [List.mapM_cons, bind_eq_ok_iff]
    constructor
    · rintro ⟨one, read, more⟩
      obtain ⟨others, reads, same⟩ := bind_eq_ok_iff.1 more
      obtain ⟨accepted, rfl⟩ := first.1 read
      obtain ⟨all, rfl⟩ := rest.1 reads
      cases same
      exact ⟨List.forall_mem_cons.2 ⟨accepted, all⟩, rfl⟩
    · rintro ⟨accepted, rfl⟩
      obtain ⟨one, others⟩ := List.forall_mem_cons.1 accepted
      exact ⟨_, first.2 ⟨one, rfl⟩, bind_eq_ok_iff.2 ⟨_, rest.2 ⟨others, rfl⟩, rfl⟩⟩

theorem refuse_ne_ok {α : Type} (expected : Expected) (literal : Literal) (value : α) :
    refuse expected literal ≠ .ok value := by
  intro answered
  obtain ⟨found, _, refused⟩ := bind_eq_ok_iff.1 answered
  cases refused

theorem readString_eq_ok_iff {json : Json} {literal : Literal} (means : Means json literal)
    {text : String} : readString literal = .ok text ↔ json = .string text := by
  cases means with
  | string source meaning =>
    rw [readString, meaning]
    constructor
    · rintro ⟨⟩
      rfl
    · rintro ⟨⟩
      rfl
  | null | bool | number | list | record =>
    constructor
    · exact fun answered => absurd answered (refuse_ne_ok _ _ _)
    · intro same
      cases same

theorem readOptional_eq_ok_iff {json : Json} {literal : Literal} (means : Means json literal)
    {text : Option String} :
    readOptional literal = .ok text ↔ IsAddress json ∧ text = textOf? json := by
  have read {text} := @readString_eq_ok_iff json literal means text
  have byText (noNull : json ≠ .null) :
      some <$> readString literal = .ok text ↔ IsAddress json ∧ text = textOf? json := by
    rw [map_eq_ok_iff]
    constructor
    · rintro ⟨text, answered, rfl⟩
      cases read.1 answered
      exact ⟨.inr ⟨text, rfl⟩, rfl⟩
    · rintro ⟨null | ⟨text, rfl⟩, rfl⟩
      · exact absurd null noNull
      · exact ⟨text, read.2 rfl, rfl⟩
  cases means with
  | null source =>
    constructor
    · rintro ⟨⟩
      exact ⟨.inl rfl, rfl⟩
    · rintro ⟨_, rfl⟩
      rfl
  | bool | number | string | list | record => exact byText nofun

theorem passOverItems_of_means {items : List Json} {literals : List Literal}
    (meant : List.Forall₂ Means items literals)
    (each : ∀ item ∈ items, ∀ {literal}, Means item literal → passOver literal = .ok ()) :
    passOverItems literals = .ok () := by
  induction meant with
  | nil => rfl
  | cons head _ ih =>
    rw [passOverItems, each _ (.head _) head]
    exact ih fun item inside => each item (.tail _ inside)

theorem passOverMembers_of_means {members : List (String × Json)}
    {pairs : List (Literal.Key × Literal)} (meant : List.Forall₂ MeansMember members pairs)
    (each : ∀ member ∈ members, ∀ {literal}, Means member.2 literal → passOver literal = .ok ()) :
    passOverMembers pairs = .ok () := by
  induction meant with
  | nil => rfl
  | cons head _ ih =>
    obtain ⟨named, means⟩ := head
    rw [passOverMembers, readKey_of_named named]
    show (passOver _ >>= fun _ => passOverMembers _) = _
    rw [each _ (.head _) means]
    exact ih fun member inside => each member (.tail _ inside)

/-- Only numbers can be without meaning, and integers have one. -/
theorem passOver_of_means {json : Json} (integral : json.Integral) {literal : Literal}
    (means : Means json literal) : passOver literal = .ok () := by
  induction json using Json.inside generalizing literal with
  | atom json atom =>
    cases means with
    | null | bool => rfl
    | number source text =>
      obtain ⟨n, low, high, rfl⟩ := integral text (.head _)
      rw [passOver, Literal.ofText_toString low high]
      rfl
    | string source meaning =>
      rw [passOver, meaning]
      rfl
    | list | record => cases atom
  | array items ih =>
    cases means with
    | list source meant =>
      exact passOverItems_of_means meant fun item inside => ih item inside (integral.item inside)
  | object members ih =>
    cases means with
    | record source meant =>
      exact passOverMembers_of_means meant fun member inside =>
        ih member inside (integral.value inside)

theorem passedOver_eq_ok_iff {δ : Type} {json : Json} (integral : json.Integral)
    {literal : Literal} (means : Means json literal) {draft next : δ} :
    (passOver literal >>= fun _ => pure draft) = .ok next ↔ next = draft := by
  rw [passOver_of_means integral means]
  constructor
  · rintro ⟨⟩
    rfl
  · rintro rfl
    rfl

theorem lookup_append_singleton (seen : List (String × Json)) (name other : String) (json : Json) :
    (seen ++ [(name, json)]).lookup other =
      (seen.lookup other).or (if other = name then some json else none) := by
  have last : [(name, json)].lookup other = if other = name then some json else none := by
    rw [List.lookup_cons]
    split <;> simp_all
  rw [List.lookup_append, last]

theorem lookup_eq_none_iff {name : String} {members : List (String × Json)} :
    members.lookup name = none ↔ name ∉ members.map Prod.fst := by
  rw [List.lookup_eq_none_iff, List.mem_map, not_exists]
  refine forall_congr' fun member => ?_
  rw [bne_iff_ne, not_and]
  exact forall_congr' fun _ => ne_comm

section Members

variable {α δ : Type} {seen : List (String × Json)} {name : String} {json : Json}
  {holds : Json → Prop} {valueOf : Json → α}

/-- A field is read where it is new and holds what it may. -/
theorem once_eq_ok_iff {source : List Char} {read : Except Fault α}
    (reads : ∀ {value}, read = .ok value ↔ holds json ∧ value = valueOf json) {next : Option α} :
    once source name ((seen.lookup name).map valueOf) read = .ok next ↔
      (name ∉ seen.map Prod.fst ∧ holds json) ∧ next = some (valueOf json) := by
  rw [← lookup_eq_none_iff]
  cases seen.lookup name with
  | some => simp [once]
  | none =>
    rw [Option.map_none, once, map_eq_ok_iff]
    constructor
    · rintro ⟨value, read, rfl⟩
      obtain ⟨held, rfl⟩ := reads.1 read
      exact ⟨⟨rfl, held⟩, rfl⟩
    · rintro ⟨⟨_, held⟩, rfl⟩
      exact ⟨valueOf json, reads.2 ⟨held, rfl⟩, rfl⟩

theorem set_eq_ok_iff {source : List Char} {read : Except Fault α} {set : Option α → δ}
    {after next : δ} (reads : ∀ {value}, read = .ok value ↔ holds json ∧ value = valueOf json)
    (sets : name ∉ seen.map Prod.fst → set (some (valueOf json)) = after) :
    once source name ((seen.lookup name).map valueOf) read >>= (fun value => pure (set value)) =
        .ok next ↔
      (name ∉ seen.map Prod.fst ∧ holds json) ∧ next = after := by
  rw [bind_eq_ok_iff]
  constructor
  · rintro ⟨value, answered, same⟩
    obtain ⟨⟨fresh, held⟩, rfl⟩ := (once_eq_ok_iff reads).1 answered
    cases same
    exact ⟨⟨fresh, held⟩, sets fresh⟩
  · rintro ⟨⟨fresh, held⟩, rfl⟩
    refine ⟨_, (once_eq_ok_iff reads).2 ⟨⟨fresh, held⟩, rfl⟩, ?_⟩
    rw [sets fresh]
    rfl

end Members

def endpointRead (seen : List (String × Json)) : EndpointDraft where
  id := (seen.lookup "id").map textOf?
  adminUrl := (seen.lookup "adminURL").map textOf?
  internalUrl := (seen.lookup "internalURL").map textOf?
  publicUrl := (seen.lookup "publicURL").map textOf?

theorem addMember_endpoint_eq_ok_iff (source : List Char) {seen : List (String × Json)}
    {name : String} {json : Json} {key : Literal.Key} {literal : Literal} {next : EndpointDraft}
    (fits : Fits endpointSlots seen) (integral : json.Integral) (named : Named name key)
    (means : Means json literal) :
    EndpointDraft.addMember source (endpointRead seen) (key, literal) = .ok next ↔
      Fits endpointSlots (seen ++ [(name, json)]) ∧
        next = endpointRead (seen ++ [(name, json)]) := by
  have reads {text} := @readOptional_eq_ok_iff json literal means text
  rw [EndpointDraft.addMember, readKey_of_named named]
  show (if name = "id" then _ else _) = _ ↔ _
  by_cases known : name ∈ addressNames
  · have slot := fits_append_slot fits (by decide) ⟨name, IsAddress⟩
      (List.mem_map_of_mem known) json
    rw [slot]
    simp only [addressNames, List.mem_cons, List.not_mem_nil, or_false] at known
    rcases known with rfl | rfl | rfl | rfl
    all_goals
      apply set_eq_ok_iff reads
      intro fresh
      simp [endpointRead, lookup_append_singleton, lookup_eq_none_iff.2 fresh]
  · rw [and_iff_right (fits_append_other fits known json)]
    simp only [addressNames, List.mem_cons, List.not_mem_nil, or_false, not_or] at known
    obtain ⟨noId, noAdmin, noInternal, noPublic⟩ := known
    have same : endpointRead (seen ++ [(name, json)]) = endpointRead seen := by
      simp [endpointRead, lookup_append_singleton, Ne.symm, *]
    rw [if_neg noId, if_neg noAdmin, if_neg noInternal, if_neg noPublic, same]
    exact passedOver_eq_ok_iff integral means

theorem finish_endpointRead (members : List (String × Json)) :
    (endpointRead members).finish = endpointOf (.object members) := by
  have joined (value : Option Json) : (value.map textOf?).join = value.bind textOf? := by
    cases value <;> rfl
  simp [EndpointDraft.finish, endpointRead, endpointOf, textIn, joined]

theorem readEndpoint_eq_ok_iff {json : Json} {literal : Literal} (integral : json.Integral)
    (noList : ∀ items, json ≠ .array items) (means : Means json literal) {endpoint : Endpoint} :
    readEndpoint literal = .ok endpoint ↔ IsEndpoint json ∧ endpoint = endpointOf json := by
  have other (noRecord : ∀ members, json ≠ .object members)
      (refused : readEndpoint literal = refuse .endpoint literal) :
      readEndpoint literal = .ok endpoint ↔ IsEndpoint json ∧ endpoint = endpointOf json := by
    rw [refused, iff_false_left (refuse_ne_ok _ _ _), not_and]
    rintro ⟨members, same, _⟩
    exact absurd same (noRecord members)
  cases means with
  | null | bool | number | string => exact other nofun rfl
  | list => exact absurd rfl (noList _)
  | @record source members pairs meant =>
    have adds {seen name json key literal next} (fits : Fits endpointSlots seen)
        (integral : json.Integral) (named : Named name key) (means : Means json literal) :=
      @addMember_endpoint_eq_ok_iff source seen name json key literal next fits integral named means
    have folded {draft} : pairs.foldlM (EndpointDraft.addMember source) {} = .ok draft ↔
        Fits endpointSlots members ∧ draft = endpointRead members :=
      @foldlM_eq_ok_iff _ _ (fun member => member.2.Integral) _ _ adds _ _ meant
        (fun _ => integral.value) [] (.nil _) draft
    rw [readEndpoint, bind_eq_ok_iff]
    constructor
    · rintro ⟨draft, read, ⟨⟩⟩
      obtain ⟨fits, rfl⟩ := folded.1 read
      exact ⟨⟨members, rfl, fits⟩, finish_endpointRead members⟩
    · rintro ⟨⟨_, ⟨⟩, fits⟩, rfl⟩
      exact ⟨_, folded.2 ⟨fits, rfl⟩, congrArg Except.ok (finish_endpointRead members)⟩

def Flat (json : Json) : Prop :=
  ∀ items, json = .array items → ∀ item ∈ items, ∀ inner, item ≠ .array inner

theorem readEndpoints_eq_ok_iff {json : Json} {literal : Literal} (integral : json.Integral)
    (flat : Flat json) (means : Means json literal) {endpoints : List Endpoint} :
    readEndpoints literal = .ok endpoints ↔ IsEndpoints json ∧ endpoints = endpointsOf json := by
  have other (noList : ∀ items, json ≠ .array items)
      (refused : readEndpoints literal = refuse .sequence literal) :
      readEndpoints literal = .ok endpoints ↔ IsEndpoints json ∧ endpoints = endpointsOf json := by
    rw [refused, iff_false_left (refuse_ne_ok _ _ _), not_and]
    rintro ⟨items, same, _⟩
    exact absurd same (noList items)
  cases means with
  | null | bool | number | string | record => exact other nofun rfl
  | @list source items literals meant =>
    have each (item) (inside : item ∈ items) {literal endpoint} (means : Means item literal) :=
      @readEndpoint_eq_ok_iff item literal (integral.item inside) (flat items rfl item inside) means
        endpoint
    rw [readEndpoints, mapM_eq_ok_iff meant each]
    constructor
    · rintro ⟨each, rfl⟩
      exact ⟨⟨items, rfl, each⟩, rfl⟩
    · rintro ⟨⟨_, ⟨⟩, each⟩, rfl⟩
      exact ⟨each, rfl⟩

def entryRead (seen : List (String × Json)) : EntryDraft where
  serviceType := (seen.lookup "type").map fun json => (textOf? json).getD "unknown"
  name := (seen.lookup "name").map fun json => (textOf? json).getD "unknown"
  endpoints := (seen.lookup "endpoints").map endpointsOf

theorem addMember_entry_eq_ok_iff (source : List Char) {seen : List (String × Json)}
    {name : String} {json : Json} {key : Literal.Key} {literal : Literal} {next : EntryDraft}
    (fits : IsEntry seen) (readable : json.Integral ∧ (name = "endpoints" → Flat json))
    (named : Named name key) (means : Means json literal) :
    EntryDraft.addMember source (entryRead seen) (key, literal) = .ok next ↔
      IsEntry (seen ++ [(name, json)]) ∧ next = entryRead (seen ++ [(name, json)]) := by
  obtain ⟨integral, flat⟩ := readable
  have texts {text} : readString literal = .ok text ↔
      IsText json ∧ text = (textOf? json).getD "unknown" := by
    rw [readString_eq_ok_iff means]
    constructor
    · rintro rfl
      exact ⟨⟨text, rfl⟩, rfl⟩
    · rintro ⟨⟨text, rfl⟩, rfl⟩
      rfl
  have slot := fits_append_slot fits (by decide)
  rw [EntryDraft.addMember, readKey_of_named named, IsEntry]
  show (if name = "type" then _ else _) = _ ↔ _
  by_cases type : name = "type"
  · subst type
    rw [slot ⟨"type", IsText⟩ (by simp [entrySlots]) json]
    apply set_eq_ok_iff texts
    intro fresh
    simp [entryRead, lookup_append_singleton, lookup_eq_none_iff.2 fresh]
  by_cases called : name = "name"
  · subst called
    rw [slot ⟨"name", IsText⟩ (by simp [entrySlots]) json]
    apply set_eq_ok_iff texts
    intro fresh
    simp [entryRead, lookup_append_singleton, lookup_eq_none_iff.2 fresh]
  by_cases listing : name = "endpoints"
  · subst listing
    have reads {endpoints} := @readEndpoints_eq_ok_iff json literal integral (flat rfl) means
      endpoints
    rw [slot ⟨"endpoints", IsEndpoints⟩ (by simp [entrySlots]) json]
    apply set_eq_ok_iff reads
    intro fresh
    simp [entryRead, lookup_append_singleton, lookup_eq_none_iff.2 fresh]
  have other : name ∉ entrySlots.map Slot.name := by simp [entrySlots, *]
  have same : entryRead (seen ++ [(name, json)]) = entryRead seen := by
    simp [entryRead, lookup_append_singleton, Ne.symm, *]
  rw [and_iff_right (fits_append_other fits other json), if_neg type, if_neg called,
    if_neg listing, same]
  exact passedOver_eq_ok_iff integral means

theorem finish_entryRead (members : List (String × Json)) :
    (entryRead members).finish = entryOf members := by
  have texts (value : Option Json) :
      (value.map fun json => (textOf? json).getD "unknown").getD "unknown" =
        (value.bind textOf?).getD "unknown" := by
    cases value <;> rfl
  simp [EntryDraft.finish, entryRead, entryOf, textIn, texts, unknownText]

def FlatEntry (members : List (String × Json)) : Prop :=
  ∀ member ∈ members, member.1 = "endpoints" → Flat member.2

theorem readEntry_eq_ok_iff {members : List (String × Json)} {literal : Literal}
    (integral : (Json.object members).Integral) (flat : FlatEntry members)
    (means : Means (.object members) literal) {entry : CatalogEntry} :
    readEntry literal = .ok entry ↔ IsEntry members ∧ entry = entryOf members := by
  cases means with
  | @record source _ pairs meant =>
    have adds {seen name json key literal next} (fits : Fits entrySlots seen)
        (readable : json.Integral ∧ (name = "endpoints" → Flat json)) (named : Named name key)
        (means : Means json literal) :=
      @addMember_entry_eq_ok_iff source seen name json key literal next fits readable named means
    have folded {draft} : pairs.foldlM (EntryDraft.addMember source) {} = .ok draft ↔
        IsEntry members ∧ draft = entryRead members :=
      @foldlM_eq_ok_iff _ _ (fun member => member.2.Integral ∧ (member.1 = "endpoints" →
        Flat member.2)) _ _ adds _ _ meant
        (fun member inside => ⟨integral.value inside, flat member inside⟩) [] (.nil _) draft
    rw [readEntry, bind_eq_ok_iff]
    constructor
    · rintro ⟨draft, read, ⟨⟩⟩
      obtain ⟨fits, rfl⟩ := folded.1 read
      exact ⟨fits, finish_entryRead members⟩
    · rintro ⟨fits, rfl⟩
      exact ⟨_, folded.2 ⟨fits, rfl⟩, congrArg Except.ok (finish_entryRead members)⟩

inductive IsTextOf (document : Json) : String → Prop
  | onOneLine : IsTextOf document document.compact
  | overLines : IsTextOf document document.pretty
  | layout {layout : Layout} (writes : layout.Writes Literal.script document) :
    IsTextOf document (String.ofList layout.chars)

theorem IsTextOf.layout_writes {document : Json} {text : String} (written : IsTextOf document text)
    (onLines : document.OnLines) :
    ∃ layout : Layout, layout.Writes Literal.script document ∧ text.toList = layout.chars := by
  cases written with
  | onOneLine =>
    refine ⟨document.onOneLine, Literal.onOneLine_writes onLines, ?_⟩
    rw [Json.onOneLine_chars, Json.compact, String.toList_ofList]
  | overLines =>
    refine ⟨document.overLines, Literal.overLines_writes onLines, ?_⟩
    rw [Json.overLines_chars, Json.pretty, String.toList_ofList]
  | @layout layout writes => exact ⟨layout, writes, String.toList_ofList⟩

theorem readable_of_integral {json : Json} (integral : json.Integral) :
    json.AllWords Literal.Readable := by
  intro word member
  cases word with
  | name => trivial
  | atom value =>
    cases value with
    | number text =>
      obtain ⟨n, low, high, rfl⟩ := integral text member
      exact Literal.isNumber_toString n
    | null | bool | string | array | object => trivial

section Document

variable {objects : List (List (String × Json))} {text : String}

theorem ofLiteral_eq_ok_iff {literal : Literal}
    (integral : (Json.array (objects.map .object)).Integral)
    (flat : ∀ members ∈ objects, FlatEntry members)
    (means : Means (.array (objects.map .object)) literal) {catalog : Catalog} :
    ofLiteral literal = .ok catalog ↔
      (∀ members ∈ objects, IsEntry members) ∧ catalog.entries = objects.map entryOf := by
  cases means with
  | @list source _ literals meant =>
    rw [List.forall₂_map_left_iff] at meant
    have each (members) (inside : members ∈ objects) {literal entry}
        (means : Means (.object members) literal) :=
      @readEntry_eq_ok_iff members literal (integral.item (List.mem_map_of_mem inside))
        (flat members inside) means entry
    rw [ofLiteral, map_eq_ok_iff]
    constructor
    · intro answered
      obtain ⟨entries, read, same⟩ := answered
      subst same
      exact (mapM_eq_ok_iff meant each).1 read
    · intro accepted
      exact ⟨catalog.entries, (mapM_eq_ok_iff meant each).2 accepted, rfl⟩

/-- What keeps a text of records from being a catalog is the data, never the form. -/
theorem parse_of_text (integral : (Json.array (objects.map .object)).Integral)
    (onLines : (Json.array (objects.map .object)).OnLines)
    (flat : ∀ members ∈ objects, FlatEntry members)
    (written : IsTextOf (.array (objects.map .object)) text) :
    (∀ catalog, parse text = .ok catalog ↔
      (∀ members ∈ objects, IsEntry members) ∧ catalog.entries = objects.map entryOf) ∧
    ∀ error, parse text = .error error → ∃ place cause, error = .data place cause := by
  obtain ⟨layout, writes, chars⟩ := written.layout_writes onLines
  obtain ⟨literal, read, means⟩ := Literal.read?_of_writes writes (readable_of_integral integral)
  have parsed : parse text = (ofLiteral literal).mapError fun fault =>
      .data (Text.Place.ofRest text.toList fault.source) fault.cause := by
    rw [parse, chars, read]
  have accepted {catalog} := @ofLiteral_eq_ok_iff objects literal integral flat means catalog
  rw [parsed]
  constructor
  · intro catalog
    rw [← accepted]
    cases ofLiteral literal with
    | ok => simp [Except.mapError]
    | error => simp [Except.mapError]
  · intro error answered
    cases failed : ofLiteral literal with
    | ok =>
      rw [failed] at answered
      cases answered
    | error fault =>
      rw [failed] at answered
      cases answered
      exact ⟨_, _, rfl⟩

/-- A catalog is taken as a whole: every record of the document is an entry, or the text is
malformed and targets are as unknown as without a catalog. -/
theorem parse_all_or_nothing (integral : (Json.array (objects.map .object)).Integral)
    (onLines : (Json.array (objects.map .object)).OnLines)
    (flat : ∀ members ∈ objects, FlatEntry members)
    (written : IsTextOf (.array (objects.map .object)) text) :
    ((∃ catalog, parse text = .ok catalog) ↔ ∀ members ∈ objects, IsEntry members) ∧
    (∀ catalog, parse text = .ok catalog → catalog.entries = objects.map entryOf) ∧
    ((∃ members ∈ objects, ¬ IsEntry members) →
      (∃ place cause, parse text = .error (.data place cause)) ∧
      ∀ (map : AuditMap) (request : AuditRequest), request.serviceCatalog = some text →
        (map.target request).value = ⟨"unknown", "unknown", "unknown", []⟩ ∧
        (map.target request).value =
          (map.target { request with serviceCatalog := none }).value) := by
  obtain ⟨accepted, refused⟩ := parse_of_text integral onLines flat written
  refine ⟨⟨?_, ?_⟩, ?_, ?_⟩
  · intro taken
    obtain ⟨catalog, parsed⟩ := taken
    exact ((accepted catalog).1 parsed).1
  · intro entries
    exact ⟨⟨objects.map entryOf⟩, (accepted _).2 ⟨entries, rfl⟩⟩
  · intro catalog parsed
    exact ((accepted catalog).1 parsed).2
  · intro violated
    obtain ⟨members, inside, violation⟩ := violated
    cases parsed : parse text with
    | ok catalog => exact absurd (((accepted catalog).1 parsed).1 members inside) violation
    | error error =>
      obtain ⟨place, cause, same⟩ := refused error parsed
      subst same
      refine ⟨⟨place, cause, rfl⟩, ?_⟩
      intro map request given
      have malformed : request.catalog = .error (.data place cause) := by
        rw [AuditRequest.catalog, given]
        exact congrArg (some <$> ·) parsed
      have unknown : (map.target request).value = ⟨"unknown", "unknown", "unknown", []⟩ := by
        rw [AuditMap.target, malformed]
        rfl
      exact ⟨unknown, unknown⟩

end Document

/-- The second entry has no name but null, so the first one is not to be had either. -/
theorem parse_all_or_nothing_of_null_name :
    let objects := [[("type", .string "compute"), ("region", .number "7"),
      ("endpoints", .array [.object [("id", .null)]])], [("name", .null)]]
    let text := "[\x7b\"type\":\"compute\",\"region\":7,\"endpoints\":[\x7b\"id\":null\x7d]\x7d," ++
      "\x7b\"name\":null\x7d]"
    (∀ members ∈ objects, FlatEntry members) ∧ ¬ IsEntry [("name", .null)] ∧
      text = (Json.array (objects.map .object)).compact ∧
      ∃ place cause, parse text = .error (.data place cause) := by
  intro objects text
  have tokens : (Json.array (objects.map .object)).Integral ∧
      (Json.array (objects.map .object)).OnLines := by
    constructor
    · intro number member
      simp [objects, Json.tokens, Json.itemTokens, Json.memberTokens] at member
      exact ⟨7, by decide, by decide, member⟩
    · intro word member
      simp [objects, Json.tokens, Json.itemTokens, Json.memberTokens] at member
      have onLine : ∀ text ∈ ["type", "compute", "region", "endpoints", "id", "name"],
          Json.OnLine text := by decide
      rcases member with rfl | rfl | rfl | rfl | rfl | rfl | rfl | rfl | rfl
      all_goals simp [Json.Word.text?, onLine]
  have flat : ∀ members ∈ objects, FlatEntry members := by
    intro members inside member listed named items same item within inner nested
    subst nested
    simp [objects] at inside
    rcases inside with rfl | rfl
    · simp at listed
      rcases listed with rfl | rfl | rfl
      · cases same
      · cases same
      · simp at same
        simp [← same] at within
    · simp at listed
      subst listed
      cases same
  have violation : ¬ IsEntry [("name", .null)] := by
    intro entry
    obtain ⟨text, same⟩ := entry.values ⟨"name", IsText⟩ (by simp [entrySlots]) .null (by simp)
    cases same
  have printed : text = (Json.array (objects.map .object)).compact := by decide +kernel
  obtain ⟨_, _, refused⟩ := parse_all_or_nothing tokens.1 tokens.2 flat .onOneLine
  refine ⟨flat, violation, printed, ?_⟩
  rw [printed]
  exact (refused ⟨_, by simp [objects], violation⟩).1

end Catalog

end CloudAudit
