import CloudAudit.Proofs.AuditMap.Meaning

/-! Loading step by step. A text is read as a whole before any section of it takes effect, and the
settings before its first header are come to first, so that a text which is not loaded leaves no
event behind. -/
namespace CloudAudit

namespace Ini

def Item.name? : Item → Option String
  | header name => some name
  | setting _ => none

def Item.setting? : Item → Option Setting
  | header _ => none
  | setting content => some content

def looseSettings (items : List Item) : List Setting :=
  (items.takeWhile (·.name?.isNone)).filterMap Item.setting?

def headerNames (items : List Item) : List String := items.filterMap Item.name?

theorem loose_ofItems (items : List Item) :
    (Document.ofItems items).loose = looseSettings items := by
  induction items with
  | nil => rfl
  | cons item rest ih =>
    cases item with
    | header name => rfl
    | setting content => exact congrArg (content :: ·) ih

theorem names_ofItems (items : List Item) :
    (Document.ofItems items).sections.map (·.name) = headerNames items := by
  induction items with
  | nil => rfl
  | cons item rest ih =>
    cases item with
    | header name => exact congrArg (name :: ·) ih
    | setting content => exact ih

structure Group where
  name : Option String
  settings : List Setting

def Section.group (part : Section) : Group := ⟨some part.name, part.settings⟩

def Document.groups (document : Document) : List Group :=
  ⟨none, document.loose⟩ :: document.sections.map Section.group

end Ini

namespace AuditMap

/-- Groups are gone through one by one, and whatever was logged before an error stays logged. -/
def visit : List Ini.Group → AuditMap → Logged (Except LoadError AuditMap)
  | [], map => ⟨.ok map, map.warnings.map .mapWarning⟩
  | ⟨none, []⟩ :: rest, map => visit rest map
  | ⟨none, setting :: _⟩ :: _, _ => pure (.error (.missingSectionHeader setting.key))
  | ⟨some name, settings⟩ :: rest, map => do visit rest (← map.addSection ⟨name, settings⟩)

def attempt (text : String) : Logged (Except LoadError AuditMap) :=
  match Ini.read text.toList with
  | .error fault => pure (.error (.malformed (fault.place text.toList) fault.cause))
  | .ok document => visit document.groups empty

def outcome : Except LoadError (Logged AuditMap) → Logged (Except LoadError AuditMap)
  | .error error => ⟨.error error, []⟩
  | .ok map => ⟨.ok map.value, map.log⟩

theorem visit_sections (sections : List Ini.Section) (map : AuditMap) :
    visit (sections.map Ini.Section.group) map =
      outcome (.ok do warned (← addSections sections map)) := by
  induction sections generalizing map with
  | nil => rfl
  | cons part rest ih =>
    have later := ih (map.addSection part).value
    have visited : visit ((part :: rest).map Ini.Section.group) map =
        (map.addSection part).andThen fun next => visit (rest.map Ini.Section.group) next := rfl
    rw [visited, Logged.andThen, later]
    simp only [outcome, addSections, bind, Logged.andThen, List.append_assoc]

theorem visit_groups (document : Ini.Document) :
    visit document.groups empty = outcome (ofDocument document) := by
  obtain ⟨loose, sections⟩ := document
  cases loose with
  | nil => exact visit_sections sections empty
  | cons setting rest => rfl

theorem attempt_eq_outcome (text : String) : attempt text = outcome (parse text) := by
  rw [attempt, parse]
  cases Ini.read text.toList with
  | error fault => rfl
  | ok document => exact visit_groups document

def knownSections : List String :=
  ["default", "custom_actions", "path_keywords", "service_endpoints"]

def headerEvents (names : List String) : List Event :=
  ((names.map Text.lowercase).filter (· ∉ knownSections)).map .unknownSection

theorem addSection_log (map : AuditMap) (part : Ini.Section) :
    (map.addSection part).log = headerEvents [part.name] := by
  rw [headerEvents, List.map_singleton]
  by_cases known : Text.lowercase part.name ∈ knownSections
  · rw [List.filter_cons_of_neg (by simpa using known)]
    simp only [knownSections, List.mem_cons, List.not_mem_nil, or_false] at known
    rcases known with name | name | name | name <;>
      simp only [addSection, name, String.reduceEq, if_true, if_false] <;> rfl
  · rw [List.filter_cons_of_pos (by simpa using known)]
    simp only [knownSections, List.mem_cons, List.not_mem_nil, or_false, not_or] at known
    obtain ⟨noDefault, noActions, noKeywords, noEndpoints⟩ := known
    simp only [addSection]
    rw [if_neg noDefault, if_neg noActions, if_neg noKeywords, if_neg noEndpoints]
    rfl

theorem addSections_log (sections : List Ini.Section) (map : AuditMap) :
    (addSections sections map).log = headerEvents (sections.map (·.name)) := by
  induction sections generalizing map with
  | nil => rfl
  | cons part rest ih =>
    have later := ih (map.addSection part).value
    have both : (addSections (part :: rest) map).log =
        (map.addSection part).log ++ (addSections rest (map.addSection part).value).log := rfl
    rw [both, later, addSection_log]
    simp only [headerEvents, List.map_cons, List.map_nil, ← List.map_append, ← List.filter_append]
    rfl

theorem parse_of_readItems {text : String} {items : List Ini.Item}
    (read : Ini.readItems text.toList = .ok items) :
    parse text = ofDocument (.ofItems items) := by
  rw [parse, Ini.read, read]
  rfl

theorem parse_of_fault {text : String} {fault : Ini.Fault}
    (read : Ini.readItems text.toList = .error fault) :
    parse text = .error (.malformed (fault.place text.toList) fault.cause) := by
  rw [parse, Ini.read, read]
  rfl

theorem ofDocument_of_loose {items : List Ini.Item} {first : Ini.Setting} {rest : List Ini.Setting}
    (loose : Ini.looseSettings items = first :: rest) :
    ofDocument (.ofItems items) = .error (.missingSectionHeader first.key) := by
  rw [ofDocument, Ini.loose_ofItems, loose]

theorem ofDocument_of_none_loose {items : List Ini.Item}
    (noLoose : Ini.looseSettings items = []) :
    ofDocument (.ofItems items) =
      .ok (addSections (Ini.Document.ofItems items).sections empty >>= warned) := by
  rw [ofDocument, Ini.loose_ofItems, noLoose]

/-- How a text is loaded: by its fault if it has one, else by the first setting before all headers,
else as the meaning of its sections. -/
inductive LoadsAs (text : String) : Except LoadError AuditMap → List Event → Prop
  | malformed (fault : Ini.Fault) (read : Ini.readItems text.toList = .error fault) :
      LoadsAs text (.error (.malformed (fault.place text.toList) fault.cause)) []
  | loose (items : List Ini.Item) (read : Ini.readItems text.toList = .ok items)
      (first : Ini.Setting) (rest : List Ini.Setting)
      (settings : Ini.looseSettings items = first :: rest) :
      LoadsAs text (.error (.missingSectionHeader first.key)) []
  | loaded (items : List Ini.Item) (read : Ini.readItems text.toList = .ok items)
      (noLoose : Ini.looseSettings items = []) (map : AuditMap)
      (same : map = meaning (Ini.Document.ofItems items).sections) :
      LoadsAs text (.ok map)
        (headerEvents (Ini.headerNames items) ++ map.warnings.map .mapWarning)

theorem loadsAs_attempt (text : String) : LoadsAs text (attempt text).value (attempt text).log := by
  rw [attempt_eq_outcome]
  cases read : Ini.readItems text.toList with
  | error fault =>
    rw [parse_of_fault read]
    exact .malformed fault read
  | ok items =>
    rw [parse_of_readItems read]
    cases settings : Ini.looseSettings items with
    | cons first rest =>
      rw [ofDocument_of_loose settings]
      exact .loose items read first rest settings
    | nil =>
      rw [ofDocument_of_none_loose settings]
      have value := addSections_value (Ini.Document.ofItems items).sections empty
      have log := addSections_log (Ini.Document.ofItems items).sections empty
      rw [Ini.names_ofItems] at log
      simp only [outcome, bind, Logged.andThen, warned, log]
      exact .loaded items read settings _ value

theorem level_of_mem_headerEvents {names : List String} {event : Event}
    (raised : event ∈ headerEvents names) : event.level = .debug := by
  obtain ⟨name, _, rfl⟩ := List.mem_map.1 raised
  rfl

section

variable {text : String} {value : Except LoadError AuditMap} {log : List Event}

theorem LoadsAs.malformed_iff (loads : LoadsAs text value log) (place : Text.Place)
    (cause : Ini.Cause) :
    value = .error (.malformed place cause) ↔
      ∃ fault, Ini.readItems text.toList = .error fault ∧
        fault.place text.toList = place ∧ fault.cause = cause := by
  cases loads with
  | malformed fault read => simp [read]
  | loose items read first rest settings => simp [read]
  | loaded items read noLoose map same => simp [read]

theorem LoadsAs.missing_iff (loads : LoadsAs text value log) (key : String) :
    value = .error (.missingSectionHeader key) ↔
      ∃ items first rest, Ini.readItems text.toList = .ok items ∧
        Ini.looseSettings items = first :: rest ∧ first.key = key := by
  cases loads with
  | malformed fault read => simp [read]
  | loose items read first rest settings => simp [read, settings]
  | loaded items read noLoose map same => simp [read, noLoose]

theorem LoadsAs.ok_iff (loads : LoadsAs text value log) (map : AuditMap) :
    value = .ok map ↔
      ∃ items, Ini.readItems text.toList = .ok items ∧ Ini.looseSettings items = [] ∧
        meaning (Ini.Document.ofItems items).sections = map := by
  cases loads with
  | malformed fault read => simp [read]
  | loose items read first rest settings => simp [read, settings]
  | loaded items read noLoose map same => simp [read, noLoose, same]

theorem LoadsAs.ne_file (loads : LoadsAs text value log) (path : String) (fault : FileFault) :
    value ≠ .error (.file path fault) := by
  cases loads <;> nofun

theorem LoadsAs.log_of_error (loads : LoadsAs text value log) {error : LoadError}
    (failed : value = .error error) : log = [] := by
  cases loads with
  | malformed | loose => rfl
  | loaded => cases failed

theorem LoadsAs.log_of_ok (loads : LoadsAs text value log) {map : AuditMap}
    (loaded : value = .ok map) {items : List Ini.Item}
    (read : Ini.readItems text.toList = .ok items) :
    log = headerEvents (Ini.headerNames items) ++ map.warnings.map .mapWarning := by
  cases loads with
  | malformed | loose => cases loaded
  | loaded others same =>
    cases loaded
    cases read.symm.trans same
    rfl

end

/-- A text is loaded as a whole or not at all. Its fault is met before its loose settings are, either
error comes without any event, and a loaded map comes with what its headers raise and the warnings
of the whole map behind that. -/
theorem attempt_atomic (text : String) :
    attempt text = outcome (parse text) ∧
    (∀ path fault, (attempt text).value ≠ .error (.file path fault)) ∧
    (∀ key, (attempt text).value = .error (.missingSectionHeader key) ↔
      ∃ items first rest, Ini.readItems text.toList = .ok items ∧
        Ini.looseSettings items = first :: rest ∧ first.key = key) ∧
    (∀ place cause, (attempt text).value = .error (.malformed place cause) ↔
      ∃ fault, Ini.readItems text.toList = .error fault ∧
        fault.place text.toList = place ∧ fault.cause = cause) ∧
    (∀ error, (attempt text).value = .error error → (attempt text).log = []) ∧
    ∀ map, (attempt text).value = .ok map →
      ∃ items, Ini.readItems text.toList = .ok items ∧
        map = meaning (Ini.Document.ofItems items).sections ∧
        (attempt text).log =
          headerEvents (Ini.headerNames items) ++ map.warnings.map .mapWarning ∧
        (∀ event ∈ headerEvents (Ini.headerNames items), event.level = .debug) ∧
        ∀ warning ∈ map.warnings, (Event.mapWarning warning).level = .warn := by
  have loads := loadsAs_attempt text
  refine ⟨attempt_eq_outcome text, loads.ne_file, loads.missing_iff, loads.malformed_iff,
    fun error => loads.log_of_error, fun map loaded => ?_⟩
  obtain ⟨items, read, _, same⟩ := (loads.ok_iff map).1 loaded
  exact ⟨items, read, same.symm, loads.log_of_ok loaded read,
    fun event => level_of_mem_headerEvents, fun warning _ => rfl⟩

theorem attempt_atomic_of_unfinished_header :
    let unfinished := "red = 1\n[colors]\n[x"
    let odd := "[Colors]\n[path_keywords]\nservers =\n[sizes]\nred = 1\n"
    (attempt unfinished).value = .error (.malformed ⟨3, 3⟩ (.unfinished [']'])) ∧
      (attempt unfinished).log = [] ∧
      (attempt odd).value = .ok (empty.addPathKeyword "servers" "") ∧
      (attempt odd).log = [.unknownSection "colors", .unknownSection "sizes",
        .mapWarning (.emptyPathKeyword "servers")] := by
  intro unfinished odd
  obtain ⟨_, _, _, malformed, silent, _⟩ := attempt_atomic unfinished
  have failed : (attempt unfinished).value = .error (.malformed ⟨3, 3⟩ (.unfinished [']'])) :=
    (malformed _ _).2 ⟨⟨.unfinished [']'], []⟩, by decide +kernel⟩
  have loaded : (attempt odd).value = .ok (empty.addPathKeyword "servers" "") := by
    decide +kernel
  obtain ⟨_, _, _, _, _, whole⟩ := attempt_atomic odd
  obtain ⟨items, read, _, log, _⟩ := whole _ loaded
  have names : (Ini.readItems odd.toList).map Ini.headerNames =
      .ok ["Colors", "path_keywords", "sizes"] := by
    decide +kernel
  rw [read] at names
  rw [Except.ok.inj names] at log
  exact ⟨failed, silent _ failed, loaded, log.trans (by decide +kernel)⟩

end AuditMap

end CloudAudit
