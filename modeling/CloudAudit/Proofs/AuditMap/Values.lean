import CloudAudit.Proofs.AuditMap.Meaning
import CloudAudit.Proofs.Ini.Step

/-! Where the values of a map come from. A value stands in the text behind a separator, and it is
the rest of that line as long as no line ends in a backslash. -/
namespace CloudAudit

namespace Ini

open Text

/-- The text from a separator to the end of the line or of the text, where a line that ends in an
open backslash goes on into the next one. -/
def Stands (text : List Char) (value : String) : Prop :=
  ∃ before separator source kept after,
    text = before ++ separator :: (source ++ after) ∧ separates separator = true ∧
      UpTo endsLine (source ++ after) kept after ∧ value = String.ofList (trimChars kept)

def IsRestOfLine (text : List Char) (value : String) : Prop :=
  ∃ before separator line after,
    text = before ++ separator :: (line ++ after) ∧ separates separator = true ∧
      (∀ c ∈ line, endsLine c = false) ∧ (∀ c ∈ after.head?, endsLine c = true) ∧
      value = String.ofList (trimChars line)

def NoLineEndsOpen (text : List Char) : Prop := ∀ c, endsLine c = true → ¬ ['\\', c] <:+: text

theorem NoLineEndsOpen.of_infix {part text : List Char} (closed : NoLineEndsOpen text)
    (inside : part <:+: text) : NoLineEndsOpen part :=
  fun c ends joint => closed c ends (joint.trans inside)

/-- Where no line ends in a backslash, what is kept up to the end of a line is all of that line. -/
theorem UpTo.whole_line {text kept rest : List Char} (upTo : UpTo endsLine text kept rest)
    (closed : NoLineEndsOpen text) : text = kept ++ rest ∧ ∀ c ∈ kept, endsLine c = false := by
  induction upTo with
  | finish => exact ⟨rfl, List.forall_mem_nil _⟩
  | stopped => exact ⟨rfl, List.forall_mem_nil _⟩
  | @passed c text kept rest pass plain more ih =>
    obtain ⟨same, all⟩ := ih (closed.of_infix (List.suffix_cons c text).isInfix)
    exact ⟨congrArg (c :: ·) same, List.forall_mem_cons.2 ⟨pass, all⟩⟩
  | @pair c text kept rest inLine more ih =>
    have visible : endsLine c = false := by
      cases ends : endsLine c with
      | false => rfl
      | true => exact absurd ⟨[], text, rfl⟩ (closed c ends)
    obtain ⟨same, all⟩ := ih (closed.of_infix (List.suffix_append ['\\', c] text).isInfix)
    exact ⟨congrArg ('\\' :: c :: ·) same,
      List.forall_mem_cons.2 ⟨rfl, List.forall_mem_cons.2 ⟨visible, all⟩⟩⟩
  | @joined text => exact absurd ⟨[], text, rfl⟩ (closed '\n' rfl)
  | alone => exact ⟨rfl, List.forall_mem_singleton.2 rfl⟩

theorem Stands.behind {taken rest : List Char} {value : String} (stands : Stands rest value) :
    Stands (taken ++ rest) value := by
  obtain ⟨before, separator, source, kept, after, same, parts⟩ := stands
  exact ⟨taken ++ before, separator, source, kept, after, by rw [same, List.append_assoc], parts⟩

theorem Stands.isRestOfLine {text : List Char} {value : String} (stands : Stands text value)
    (closed : NoLineEndsOpen text) : IsRestOfLine text value := by
  obtain ⟨before, separator, source, kept, after, same, separated, read, shown⟩ := stands
  have inside : source ++ after <:+: text := ⟨before ++ [separator], [], by rw [same]; simp⟩
  obtain ⟨whole, inLine⟩ := read.whole_line (closed.of_infix inside)
  rw [whole] at same
  exact ⟨before, separator, kept, after, same, separated, inLine, read.stops, shown⟩

/-- A setting is made of a value that stands where the turn begins. -/
theorem Step.stands {fresh : Bool} {key waiting text after : List Char} {setting : Setting}
    (step : Step fresh key text (some (.setting setting)) waiting after) :
    Stands text setting.value := by
  cases step with
  | @value separator text value after separated waits read =>
    obtain ⟨source, same⟩ := read.suffix
    subst same
    exact ⟨[], separator, source, value, after, rfl, separated, read, rfl⟩

theorem Run.stands {fresh : Bool} {key text : List Char} {items : List Item}
    (run : Run fresh key text items) :
    ∀ setting, .setting setting ∈ items → Stands text setting.value := by
  induction run with
  | done => simp
  | @turn fresh again key waiting rest blank left c item items step skipped more ih =>
    intro setting member
    rcases List.mem_append.1 member with made | later
    · cases item with
      | none => simp at made
      | some item =>
        cases List.mem_singleton.1 made
        exact step.stands
    · obtain ⟨taken, same⟩ := step.suffix
      rw [same, ← List.append_assoc]
      exact (ih setting later).behind

/-- The settings of a document, loose ones included, are items of the text. -/
theorem mem_items_of_document {items : List Item} {setting : Setting}
    (member : setting ∈ (Document.ofItems items).loose ∨
      ∃ part ∈ (Document.ofItems items).sections, setting ∈ part.settings) :
    .setting setting ∈ items := by
  induction items with
  | nil => simp [Document.ofItems] at member
  | cons item rest ih =>
    cases item with
    | header name => exact .tail _ (ih (by simpa [Document.ofItems] using member))
    | setting content =>
      rcases member with loose | inside
      · rcases List.mem_cons.1 loose with rfl | later
        · exact .head _
        · exact .tail _ (ih (.inl later))
      · exact .tail _ (ih (.inr inside))

end Ini

def Table.Holds (table : Table) (value : String) : Prop := ∃ key, (key, value) ∈ table.entries

theorem Table.holds_insert {table : Table} {key value other : String}
    (holds : (table.insert key value).Holds other) : other = value ∨ table.Holds other := by
  obtain ⟨found, inside⟩ := holds
  rcases mem_place inside with placed | there
  · cases placed
    exact .inl rfl
  · exact .inr ⟨found, there⟩

namespace AuditMap

def values (map : AuditMap) : List String :=
  (map.pathKeywords.entries ++ map.customActions.entries ++ map.serviceEndpoints.entries).map
    Prod.snd ++ map.defaultEndpointType.toList

theorem mem_values {map : AuditMap} {value : String} :
    value ∈ map.values ↔ map.pathKeywords.Holds value ∨ map.customActions.Holds value ∨
      map.serviceEndpoints.Holds value ∨ map.defaultEndpointType = some value := by
  simp [values, Table.Holds]

def Adds (add : AuditMap → String → String → AuditMap) : Prop :=
  ∀ {map key value other}, other ∈ (add map key value).values → other = value ∨ other ∈ map.values

theorem adds_addPathKeyword : Adds addPathKeyword := by
  intro map key value other member
  rw [mem_values] at member ⊢
  rcases member with new | others
  · exact (Table.holds_insert new).imp id .inl
  · exact .inr (.inr others)

theorem adds_addCustomAction : Adds addCustomAction := by
  intro map key value other member
  rw [mem_values] at member ⊢
  rcases member with keyword | new | others
  · exact .inr (.inl keyword)
  · exact (Table.holds_insert new).imp id fun old => .inr (.inl old)
  · exact .inr (.inr (.inr others))

theorem adds_addServiceEndpoint : Adds addServiceEndpoint := by
  intro map key value other member
  rw [mem_values] at member ⊢
  rcases member with keyword | action | new | default
  · exact .inr (.inl keyword)
  · exact .inr (.inr (.inl action))
  · exact (Table.holds_insert new).imp id fun old => .inr (.inr (.inl old))
  · exact .inr (.inr (.inr (.inr default)))

theorem mem_values_of_default {map : AuditMap} {value other : String}
    (member : other ∈ (map.setDefaultEndpointType value).values) :
    other = value ∨ other ∈ map.values := by
  rw [mem_values] at member ⊢
  rcases member with keyword | action | endpoint | default
  · exact .inr (.inl keyword)
  · exact .inr (.inr (.inl action))
  · exact .inr (.inr (.inr (.inl endpoint)))
  · cases default
    exact .inl rfl

theorem Adds.foldl {add : AuditMap → String → String → AuditMap} (adds : Adds add)
    {settings : List Ini.Setting} {map : AuditMap} {value : String}
    (member : value ∈ (settings.foldl (withSetting add) map).values) :
    (∃ setting ∈ settings, setting.value = value) ∨ value ∈ map.values := by
  induction settings generalizing map with
  | nil => exact .inr member
  | cons setting rest ih =>
    rcases ih member with ⟨later, inside, same⟩ | earlier
    · exact .inl ⟨later, .tail _ inside, same⟩
    · rcases adds earlier with new | old
      · exact .inl ⟨setting, .head _, new.symm⟩
      · exact .inr old

theorem mem_values_of_section {map : AuditMap} {part : Ini.Section} {value : String}
    (member : value ∈ (map.withSection part).values) :
    (∃ setting ∈ part.settings, setting.value = value) ∨ value ∈ map.values := by
  rw [withSection] at member
  split at member
  case h_1 => exact adds_addCustomAction.foldl member
  case h_2 => exact adds_addPathKeyword.foldl member
  case h_3 => exact adds_addServiceEndpoint.foldl member
  case h_4 =>
    split at member
    case h_1 => exact .inr member
    case h_2 first rest found =>
      have inside : first ∈ part.settings := by
        apply List.mem_of_mem_filter
        rw [found]
        exact .head _
      rcases mem_values_of_default member with new | old
      · exact .inl ⟨first, inside, new.symm⟩
      · exact .inr old
  case h_5 => exact .inr member

theorem mem_values_of_sections {sections : List Ini.Section} {map : AuditMap} {value : String}
    (member : value ∈ (sections.foldl withSection map).values) :
    (∃ part ∈ sections, ∃ setting ∈ part.settings, setting.value = value) ∨
      value ∈ map.values := by
  induction sections generalizing map with
  | nil => exact .inr member
  | cons part rest ih =>
    rcases ih member with ⟨later, inside, found⟩ | earlier
    · exact .inl ⟨later, .tail _ inside, found⟩
    · rcases mem_values_of_section earlier with new | old
      · exact .inl ⟨part, .head _, new⟩
      · exact .inr old

theorem parse_eq_ok {text : String} {map : AuditMap}
    (parsed : (parse text).map (·.value) = .ok map) :
    ∃ items, Ini.readItems text.toList = .ok items ∧
      map = (Ini.Document.ofItems items).sections.foldl withSection empty := by
  rw [parse, Ini.read] at parsed
  cases read : Ini.readItems text.toList with
  | error fault =>
    rw [read] at parsed
    cases parsed
  | ok items =>
    rw [read] at parsed
    refine ⟨items, rfl, ?_⟩
    change (ofDocument (Ini.Document.ofItems items)).map (·.value) = .ok map at parsed
    rw [ofDocument] at parsed
    split at parsed
    · cases parsed
    · cases parsed
      exact addSections_value _ empty

/-- Every value of a map that is parsed stands in the text behind a separator, and it is the rest
of that line if no line of the text ends in a backslash. -/
theorem values_stand {text : String} {map : AuditMap}
    (parsed : (parse text).map (·.value) = .ok map) :
    (∀ value ∈ map.values, Ini.Stands text.toList value) ∧
    (Ini.NoLineEndsOpen text.toList →
      ∀ value ∈ map.values, Ini.IsRestOfLine text.toList value) := by
  have stand : ∀ value ∈ map.values, Ini.Stands text.toList value := by
    intro value member
    obtain ⟨items, read, same⟩ := parse_eq_ok parsed
    subst same
    rcases mem_values_of_sections member with ⟨part, inside, setting, listed, shown⟩ | none
    · have item := Ini.mem_items_of_document (.inr ⟨part, inside, listed⟩)
      exact shown ▸ (Ini.run_of_readItems read).stands setting item
    · cases none
  exact ⟨stand, fun closed value member => (stand value member).isRestOfLine closed⟩

theorem values_stand_of_inner_backslash :
    let text := "[path_keywords]\nservers = a\\b\r\n"
    (parse text).map (·.value) = .ok (empty.addPathKeyword "servers" "a\\b") ∧
      Ini.IsRestOfLine text.toList "a\\b" := by
  intro text
  have parsed : (parse text).map (·.value) = .ok (empty.addPathKeyword "servers" "a\\b") := by
    decide +kernel
  have closed : Ini.NoLineEndsOpen text.toList := by
    intro c ends
    have kind : c = '\n' ∨ c = '\r' := by simpa [Ini.endsLine] using ends
    rcases kind with rfl | rfl
    · decide +kernel
    · decide +kernel
  exact ⟨parsed, (values_stand parsed).2 closed _ (by decide +kernel)⟩

/-- Behind a backslash the next line goes into the value, and the option on it is lost. -/
theorem value_over_two_lines :
    let text := "[path_keywords]\nservers = a\\\nflavors = b\n"
    (parse text).map (·.value) = .ok (empty.addPathKeyword "servers" "aflavors = b") ∧
      ¬ Ini.IsRestOfLine text.toList "aflavors = b" := by
  intro text
  refine ⟨by decide +kernel, ?_⟩
  intro rest
  obtain ⟨before, separator, line, after, same, _, _, _, shown⟩ := rest
  have whole : Text.trimChars line <:+: text.toList := by
    refine (Text.trimChars_infix line).trans ⟨before ++ [separator], after, ?_⟩
    rw [same]
    simp
  rw [← String.toList_ofList (l := Text.trimChars line), ← shown] at whole
  exact absurd whole (by decide +kernel)

end AuditMap

end CloudAudit
