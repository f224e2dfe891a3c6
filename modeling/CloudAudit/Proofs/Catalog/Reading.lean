import CloudAudit.Catalog.Reader
import CloudAudit.Proofs.Catalog.Document

/-! Catalogs are read from every literal of every document that shows them, so the form that a
catalog is written in does not matter. -/
namespace CloudAudit

open Outline

namespace Catalog

open Literal (Named Means MeansMember)

theorem readKey_of_named {name : String} {key : Literal.Key} (named : Named name key) :
    readKey key = .ok name := by
  rw [readKey, named]
  rfl

theorem readString_of_means {text : String} {literal : Literal}
    (means : Means (.string text) literal) : readString literal = .ok text := by
  cases means with
  | string source meaning =>
    rw [readString, meaning]
    rfl

theorem readOptional_of_means {text : Option String} {literal : Literal}
    (means : Means (textOrNull text) literal) : readOptional literal = .ok text := by
  cases text with
  | none =>
    cases means
    rfl
  | some text =>
    have read := readString_of_means means
    cases means with
    | string source meaning =>
      rw [readOptional, read]
      · rfl
      · nofun

theorem mapM_of_forall₂ {α β γ ε : Type} {shows : β → α → Prop} {means : α → γ → Prop}
    {values : List β} {items : List α} {literals : List γ}
    (shown : List.Forall₂ shows values items) (meant : List.Forall₂ means items literals)
    {read : γ → Except ε β}
    (reads : ∀ {value item literal}, shows value item → means item literal →
      read literal = .ok value) :
    literals.mapM read = .ok values := by
  induction shown generalizing literals with
  | nil =>
    cases meant
    rfl
  | cons head _ ih =>
    cases meant with
    | cons first rest =>
      rw [List.mapM_cons, reads head first, ih rest]
      rfl

/-- Records are read member by member. What has been read depends on which names have come up, and
not on their order. -/
theorem foldlM_of_shown {δ : Type} {fields : List Field} {draft : List String → δ}
    {add : δ → Literal.Key × Literal → Except Fault δ}
    (adds : ∀ {seen field json key literal}, field ∈ fields → field.shows json →
      field.name ∉ seen → Named field.name key → Means json literal →
      add (draft seen) (key, literal) = .ok (draft (field.name :: seen)))
    {members : List (String × Json)} {pairs : List (Literal.Key × Literal)}
    (meant : List.Forall₂ MeansMember members pairs) {seen : List String}
    (once : (members.map Prod.fst).Nodup) (fresh : ∀ member ∈ members, member.1 ∉ seen)
    (known : ∀ member ∈ members, ∃ field ∈ fields,
      field.name = member.1 ∧ field.shows member.2) :
    pairs.foldlM add (draft seen) =
      .ok (draft ((members.map Prod.fst).reverse ++ seen)) := by
  induction meant generalizing seen with
  | nil => rfl
  | @cons member pair members pairs head _ ih =>
    obtain ⟨named, means⟩ := head
    rename_i name key json literal
    obtain ⟨field, listed, rfl, shown⟩ := known (name, json) (.head _)
    obtain ⟨unseen, later⟩ := List.nodup_cons.1 once
    have added := adds listed shown (fresh (field.name, json) (.head _)) named means
    have freshLater : ∀ member ∈ members, member.1 ∉ field.name :: seen := by
      intro member inside again
      rcases List.mem_cons.1 again with same | earlier
      · exact unseen (List.mem_map.2 ⟨member, inside, same⟩)
      · exact fresh member (.tail _ inside) earlier
    have rest := ih later freshLater fun member inside => known member (.tail _ inside)
    rw [List.foldlM_cons, added]
    show pairs.foldlM add (draft (field.name :: seen)) = _
    rw [rest]
    simp

theorem foldlM_of_showsAll {δ : Type} {fields : List Field} {draft : List String → δ}
    {add : δ → Literal.Key × Literal → Except Fault δ}
    (adds : ∀ {seen field json key literal}, field ∈ fields → field.shows json →
      field.name ∉ seen → Named field.name key → Means json literal →
      add (draft seen) (key, literal) = .ok (draft (field.name :: seen)))
    {members : List (String × Json)} {pairs : List (Literal.Key × Literal)}
    (all : ShowsAll fields members) (meant : List.Forall₂ MeansMember members pairs) :
    ∃ seen, pairs.foldlM add (draft []) = .ok (draft seen) ∧
      ∀ field ∈ fields, field.spare ∨ field.name ∈ seen := by
  have unseen : ∀ member ∈ members, member.1 ∉ ([] : List String) := fun _ _ => List.not_mem_nil
  refine ⟨_, foldlM_of_shown adds meant all.once unseen all.known, fun field listed => ?_⟩
  simpa using all.complete field listed

theorem getD_of_complete {α : Type} {name : String} {seen : List String} {value default : α}
    (complete : value = default ∨ name ∈ seen) :
    (if name ∈ seen then some value else none).getD default = value := by
  rcases complete with rfl | there
  · split <;> rfl
  · rw [if_pos there]
    rfl

def endpointDraft (endpoint : Endpoint) (seen : List String) : EndpointDraft where
  id := if "id" ∈ seen then some endpoint.id else none
  adminUrl := if "adminURL" ∈ seen then some endpoint.adminUrl else none
  internalUrl := if "internalURL" ∈ seen then some endpoint.internalUrl else none
  publicUrl := if "publicURL" ∈ seen then some endpoint.publicUrl else none

theorem addMember_endpoint (source : List Char) {endpoint : Endpoint} {seen : List String}
    {field : Field} {json : Json} {key : Literal.Key} {literal : Literal}
    (listed : field ∈ endpointFields endpoint) (shown : field.shows json)
    (fresh : field.name ∉ seen) (named : Named field.name key) (means : Means json literal) :
    EndpointDraft.addMember source (endpointDraft endpoint seen) (key, literal) =
      .ok (endpointDraft endpoint (field.name :: seen)) := by
  rw [EndpointDraft.addMember, readKey_of_named named]
  simp only [endpointFields, addresses, List.map_cons, List.map_nil, List.mem_cons,
    List.not_mem_nil, or_false] at listed
  rcases listed with rfl | rfl | rfl | rfl
  all_goals
    cases shown
    have value := readOptional_of_means means
    simp only [address] at fresh
    simp [address, endpointDraft, once, fresh, value, bind, Except.bind, pure, Except.pure]

theorem finish_endpoint {endpoint : Endpoint} {seen : List String}
    (complete : ∀ field ∈ endpointFields endpoint, field.spare ∨ field.name ∈ seen) :
    (endpointDraft endpoint seen).finish = endpoint := by
  have join (text : Option (Option String)) : text.join = text.getD none := by cases text <;> rfl
  simp only [endpointFields, addresses, address, List.map_cons, List.forall_mem_cons] at complete
  obtain ⟨id, adminUrl, internalUrl, publicUrl, _⟩ := complete
  simp only [EndpointDraft.finish, endpointDraft, join]
  rw [getD_of_complete id, getD_of_complete adminUrl, getD_of_complete internalUrl,
    getD_of_complete publicUrl]

theorem readEndpoint_of_shows {endpoint : Endpoint} {json : Json} {literal : Literal}
    (shown : ShowsEndpoint endpoint json) (means : Means json literal) :
    readEndpoint literal = .ok endpoint := by
  obtain ⟨members, rfl, all⟩ := shown
  cases means with
  | @record source _ pairs each =>
    have start : endpointDraft endpoint [] = {} := rfl
    obtain ⟨seen, folded, complete⟩ := foldlM_of_showsAll (addMember_endpoint source) all each
    rw [start] at folded
    rw [readEndpoint, folded]
    exact congrArg Except.ok (finish_endpoint complete)

def entryDraft (entry : CatalogEntry) (seen : List String) : EntryDraft where
  serviceType := if "type" ∈ seen then some entry.serviceType else none
  name := if "name" ∈ seen then some entry.name else none
  endpoints := if "endpoints" ∈ seen then some entry.endpoints else none

theorem readEndpoints_of_shows {endpoints : List Endpoint} {json : Json} {literal : Literal}
    (shown : ShowsList ShowsEndpoint endpoints json) (means : Means json literal) :
    readEndpoints literal = .ok endpoints := by
  obtain ⟨items, rfl, each⟩ := shown
  cases means with
  | list source meant => exact mapM_of_forall₂ each meant readEndpoint_of_shows

theorem addMember_entry (source : List Char) {entry : CatalogEntry} {seen : List String}
    {field : Field} {json : Json} {key : Literal.Key} {literal : Literal}
    (listed : field ∈ entryFields entry) (shown : field.shows json)
    (fresh : field.name ∉ seen) (named : Named field.name key) (means : Means json literal) :
    EntryDraft.addMember source (entryDraft entry seen) (key, literal) =
      .ok (entryDraft entry (field.name :: seen)) := by
  rw [EntryDraft.addMember, readKey_of_named named]
  simp only [entryFields, List.mem_cons, List.not_mem_nil, or_false] at listed
  rcases listed with rfl | rfl | rfl
  · cases shown
    have value := readString_of_means means
    simp only at fresh
    simp [entryDraft, once, fresh, value, bind, Except.bind, pure, Except.pure]
  · cases shown
    have value := readString_of_means means
    simp only at fresh
    simp [entryDraft, once, fresh, value, bind, Except.bind, pure, Except.pure]
  · have value := readEndpoints_of_shows shown means
    simp only at fresh
    simp [entryDraft, once, fresh, value, bind, Except.bind, pure, Except.pure]

theorem finish_entry {entry : CatalogEntry} {seen : List String}
    (complete : ∀ field ∈ entryFields entry, field.spare ∨ field.name ∈ seen) :
    (entryDraft entry seen).finish = entry := by
  simp only [entryFields, List.forall_mem_cons] at complete
  obtain ⟨serviceType, name, endpoints, _⟩ := complete
  have default : unknownText = "unknown" := rfl
  simp only [EntryDraft.finish, entryDraft, default]
  rw [getD_of_complete serviceType, getD_of_complete name, getD_of_complete endpoints]

theorem readEntry_of_shows {entry : CatalogEntry} {json : Json} {literal : Literal}
    (shown : ShowsEntry entry json) (means : Means json literal) :
    readEntry literal = .ok entry := by
  obtain ⟨members, rfl, all⟩ := shown
  cases means with
  | @record source _ pairs each =>
    have start : entryDraft entry [] = {} := rfl
    obtain ⟨seen, folded, complete⟩ := foldlM_of_showsAll (addMember_entry source) all each
    rw [start] at folded
    rw [readEntry, folded]
    exact congrArg Except.ok (finish_entry complete)

theorem ofLiteral_of_shows {catalog : Catalog} {json : Json} {literal : Literal}
    (shown : catalog.Shows json) (means : Means json literal) :
    ofLiteral literal = .ok catalog := by
  obtain ⟨items, rfl, each⟩ := shown
  cases means with
  | list source meant =>
    rw [ofLiteral, mapM_of_forall₂ each meant readEntry_of_shows]
    rfl

/-- What a literal of a document that shows a catalog is read as. -/
theorem parse_of_writes {catalog : Catalog} {json : Json} {layout : Layout}
    (shown : catalog.Shows json) (writes : layout.Writes Literal.script json) :
    parse (String.ofList layout.chars) = .ok catalog := by
  have readable : json.AllWords Literal.Readable :=
    allWords_of_shows shown (fun _ _ => trivial) trivial fun _ _ => trivial
  obtain ⟨literal, read, means⟩ := Literal.read?_of_writes writes readable
  rw [parse, String.toList_ofList, read]
  dsimp only
  rw [ofLiteral_of_shows shown means]
  rfl

/-- A catalog is read back from every writing of every document that shows it, and from the text
that it is serialized as. -/
theorem parse_any_writing (catalog : Catalog) :
    (∀ (json : Json) (layout : Layout), catalog.Shows json → layout.Writes Literal.script json →
      parse (String.ofList layout.chars) = .ok catalog) ∧
    (catalog.OnLines → parse (Json.compact catalog.json) = .ok catalog) := by
  refine ⟨fun _ _ => parse_of_writes, fun onLines => ?_⟩
  have shown := shows_json catalog
  have writes := Literal.onOneLine_writes (onLines_of_shows shown onLines)
  rw [Json.compact, ← Json.onOneLine_chars]
  exact parse_of_writes shown writes

theorem parse_any_writing_of_nova :
    let catalog : Catalog := ⟨[⟨"compute", "n's", [⟨none, none, none, some "http://n"⟩]⟩,
      ⟨"unknown", "unknown", []⟩]⟩
    let text := "[ /* one */ \x7bname:'n\\'s', 'type' : \"compute\",endpoints:" ++
      "[\x7bpublicURL:'http://n',id:null\x7d,],\x7d,//two\n\x7b\x7d]"
    parse text = .ok catalog ∧ parse (Json.compact catalog.json) = .ok catalog := by
  intro catalog text
  let layout : Layout := ⟨[⟨[], .openList (), ['[']⟩, ⟨" /* one */ ".toList, .openRecord (), ['{']⟩,
      ⟨[], .word (.name "name"), "name".toList⟩, ⟨[], .colon, [':']⟩,
      ⟨[], .word (.atom (.string "n's")), "'n\\'s'".toList⟩, ⟨[], .comma, [',']⟩,
      ⟨[' '], .word (.name "type"), "'type'".toList⟩, ⟨[' '], .colon, [':']⟩,
      ⟨[' '], .word (.atom (.string "compute")), "\"compute\"".toList⟩, ⟨[], .comma, [',']⟩,
      ⟨[], .word (.name "endpoints"), "endpoints".toList⟩, ⟨[], .colon, [':']⟩,
      ⟨[], .openList (), ['[']⟩, ⟨[], .openRecord (), ['{']⟩,
      ⟨[], .word (.name "publicURL"), "publicURL".toList⟩, ⟨[], .colon, [':']⟩,
      ⟨[], .word (.atom (.string "http://n")), "'http://n'".toList⟩, ⟨[], .comma, [',']⟩,
      ⟨[], .word (.name "id"), "id".toList⟩, ⟨[], .colon, [':']⟩,
      ⟨[], .word (.atom .null), "null".toList⟩, ⟨[], .closeRecord, ['}']⟩, ⟨[], .comma, [',']⟩,
      ⟨[], .closeList, [']']⟩, ⟨[], .comma, [',']⟩, ⟨[], .closeRecord, ['}']⟩, ⟨[], .comma, [',']⟩,
      ⟨"//two\n".toList, .openRecord (), ['{']⟩, ⟨[], .closeRecord, ['}']⟩,
      ⟨[], .closeList, [']']⟩], []⟩
  let json : Json := .array [.object [("name", .string "n's"), ("type", .string "compute"),
    ("endpoints", .array [.object [("publicURL", .string "http://n"), ("id", .null)]])], .object []]
  have blank : Literal.IsGap [' '] := .blank (by decide) .nil
  have block : Literal.IsGap " /* one */ ".toList :=
    .blank (by decide) (@Literal.IsGap.block " one ".toList [' '] (by decide) blank)
  have line : Literal.IsGap "//two\n".toList :=
    @Literal.IsGap.line "two".toList '\n' [] (by simp [Literal.lineEnds]) (by decide) .nil
  have name : Literal.SpellsString "n's" "'n\\'s'".toList :=
    ⟨'\'', by decide, [['n'], ['\\', '\''], ['s']], .cons (.raw (by decide) (by decide) (by decide))
      (.cons (.itself rfl (by decide) (by decide))
        (.cons (.raw (by decide) (by decide) (by decide)) .nil)), rfl⟩
  have bare {text : String} (bare : Literal.isBareName text.toList = true) :
      Literal.SpellsName text text.toList := .inr ⟨bare, String.ofList_toList.symm⟩
  have type : Literal.SpellsString "type" "'type'".toList :=
    Literal.spellsString_of_raw (by decide) (by decide)
  have compute : Literal.SpellsString "compute" "\"compute\"".toList :=
    Literal.spellsString_of_raw (by decide) (by decide)
  have url : Literal.SpellsString "http://n" "'http://n'".toList :=
    Literal.spellsString_of_raw (by decide) (by decide)
  have writes : layout.Writes Literal.script json := by
    refine ⟨rfl, ?_, .gap .nil⟩
    simp only [layout, List.forall_mem_cons, List.not_mem_nil, false_implies, implies_true,
      and_true]
    exact ⟨⟨.nil, rfl⟩, ⟨block, rfl⟩, ⟨.nil, bare (by decide)⟩, ⟨.nil, rfl⟩,
      ⟨.nil, name⟩, ⟨.nil, rfl⟩, ⟨blank, .inl type⟩, ⟨blank, rfl⟩, ⟨blank, compute⟩, ⟨.nil, rfl⟩,
      ⟨.nil, bare (by decide)⟩, ⟨.nil, rfl⟩, ⟨.nil, rfl⟩, ⟨.nil, rfl⟩,
      ⟨.nil, bare (by decide)⟩, ⟨.nil, rfl⟩, ⟨.nil, url⟩, ⟨.nil, rfl⟩,
      ⟨.nil, bare (by decide)⟩, ⟨.nil, rfl⟩, ⟨.nil, rfl⟩, ⟨.nil, rfl⟩, ⟨.nil, rfl⟩,
      ⟨.nil, rfl⟩, ⟨.nil, rfl⟩, ⟨.nil, rfl⟩, ⟨.nil, rfl⟩, ⟨line, rfl⟩, ⟨.nil, rfl⟩, ⟨.nil, rfl⟩⟩
  have shown : catalog.Shows json := by
    have endpoint : ShowsEndpoint ⟨none, none, none, some "http://n"⟩
        (.object [("publicURL", .string "http://n"), ("id", .null)]) :=
      ⟨_, rfl, by decide, by simp [endpointFields, addresses, address, textOrNull],
        by simp [endpointFields, addresses, address]⟩
    have endpoints : ShowsList ShowsEndpoint [⟨none, none, none, some "http://n"⟩]
        (.array [.object [("publicURL", .string "http://n"), ("id", .null)]]) :=
      ⟨_, rfl, .cons endpoint .nil⟩
    refine ⟨_, rfl, .cons ⟨_, rfl, by decide, ?_, ?_⟩
      (.cons ⟨_, rfl, .nil, List.forall_mem_nil _, ?_⟩ .nil)⟩
    · simp [entryFields, endpoints]
    · simp [entryFields]
    · simp [entryFields]
  have onLines : ∀ text ∈ ["compute", "n's", "http://n", "unknown", "unknown"],
      Json.OnLine text := by decide
  obtain ⟨anyWriting, serialized⟩ := parse_any_writing catalog
  have spelling : text = String.ofList layout.chars := by decide +kernel
  exact ⟨spelling ▸ anyWriting json layout shown writes, serialized onLines⟩

end Catalog

end CloudAudit
