import CloudAudit.Json.Printer
import CloudAudit.Proofs.Json.Valid
import CloudAudit.Proofs.Literal.Script

/-! A document on one line is a layout of it: its tokens one after the other without a gap. So it is
a JSON text of the document. It is a JSON5 literal too, as long as no text in it holds one of the two
line ends that JSON leaves as they are. -/
namespace CloudAudit

open Outline Text

namespace Json

def printed : Outline.Token Unit Word → List Char
  | .word (.name text) => quotedString text
  | .word (.atom value) => write value
  | .openList _ => ['[']
  | .closeList => [']']
  | .openRecord _ => ['{']
  | .closeRecord => ['}']
  | .comma => [',']
  | .colon => [':']

mutual

theorem write_eq_printed : ∀ json : Json, write json = json.tokens.flatMap printed
  | .null | .bool _ | .number _ | .string _ => by simp [tokens, printed]
  | .array [] | .object [] => rfl
  | .array (item :: rest) => by
    simp [write, tokens, printed, write_eq_printed item, writeItems_eq_printed rest]
  | .object ((name, value) :: rest) => by
    simp [write, tokens, printed, write_eq_printed value, writeMembers_eq_printed rest]

theorem writeItems_eq_printed : ∀ items : List Json,
    writeItems items = (itemTokens items).flatMap printed
  | [] => rfl
  | item :: rest => by
    simp [writeItems, itemTokens, printed, write_eq_printed item, writeItems_eq_printed rest]

theorem writeMembers_eq_printed : ∀ members : List (String × Json),
    writeMembers members = (memberTokens members).flatMap printed
  | [] => rfl
  | (name, value) :: rest => by
    simp [writeMembers, memberTokens, printed, write_eq_printed value, writeMembers_eq_printed rest]

end

def onOneLine (json : Json) : Layout :=
  ⟨json.tokens.map fun token => ⟨[], token, printed token⟩, []⟩

theorem onOneLine_chars (json : Json) : json.onOneLine.chars = write json := by
  rw [write_eq_printed]
  simp [onOneLine, Layout.chars, List.flatMap_map]

/-- The tokens of a document one after the other, as they are printed. -/
theorem writes_of_printed {script : Script} {layout : Layout} {json : Json}
    (tokens : layout.tokens = json.tokens)
    (each : ∀ lexeme ∈ layout.lexemes, script.gap lexeme.gap ∧ lexeme.chars = printed lexeme.token)
    (ending : script.ending layout.ending)
    (words : json.AllWords fun word => script.word word (printed (.word word))) :
    layout.Writes script json where
  tokens := by
    have kept := dropClosingCommas_tokens json false []
    rw [List.append_nil] at kept
    rw [tokens, kept]
    split <;> simp [dropClosingCommas]
  lexemes := by
    intro lexeme inside
    have member : lexeme.token ∈ layout.tokens := List.mem_map_of_mem inside
    obtain ⟨gap, chars⟩ := each lexeme inside
    refine ⟨gap, ?_⟩
    rw [chars]
    cases same : lexeme.token with
    | word word => exact words word (tokens ▸ same ▸ member)
    | openList | closeList | openRecord | closeRecord | comma | colon => rfl
  ending := ending

theorem onOneLine_writes {script : Script} (gap : script.gap []) (ending : script.ending [])
    {json : Json}
    (words : json.AllWords fun word => script.word word (printed (.word word))) :
    json.onOneLine.Writes script json := by
  have same : json.onOneLine.tokens = json.tokens := by
    rw [Layout.tokens, onOneLine, List.map_map]
    exact List.map_id _
  refine writes_of_printed same (fun lexeme inside => ?_) ending words
  obtain ⟨token, _, rfl⟩ := List.mem_map.1 inside
  exact ⟨gap, rfl⟩

def Word.text? : Word → Option String
  | .name text => some text
  | .atom (.string text) => some text
  | .atom _ => none

def OnLine (text : String) : Prop := ∀ c ∈ text.toList, c ∉ ['\u2028', '\u2029']

instance : DecidablePred OnLine :=
  fun text => List.decidableBAll (· ∉ ['\u2028', '\u2029']) text.toList

def OnLines (json : Json) : Prop :=
  json.AllWords fun word => ∀ text ∈ word.text?, OnLine text

theorem atom_of_word_mem {json value : Json} (member : .word (.atom value) ∈ json.tokens) :
    value.isAtom = true := by
  induction json using Json.inside with
  | atom json atom =>
    rw [tokens_of_isAtom atom, List.mem_singleton] at member
    cases member
    exact atom
  | array items ih =>
    obtain ⟨item, inside, member⟩ := word_mem_array.1 member
    exact ih item inside member
  | object members ih =>
    obtain ⟨pair, inside, other | member⟩ := word_mem_object.1 member
    · cases other
    · exact ih pair inside member

theorem writes_controlEscape {c : Char} (control : c.toNat < 0x20) :
    ∃ digits, controlEscape c.toNat = '\\' :: 'u' :: digits ∧ digits.length = 4 ∧
      WritesHexadecimal c.toNat digits := by
  have lower : ∀ n < 0x20, (hexadecimal n).length ≤ 4 ∧
      (hexadecimal n).map Char.toLower = hexadecimal n := by decide
  obtain ⟨short, small⟩ := lower c.toNat control
  refine ⟨List.replicate (4 - (hexadecimal c.toNat).length) '0' ++ hexadecimal c.toNat, rfl, ?_,
    4 - (hexadecimal c.toNat).length, ?_⟩
  · rw [List.length_append, List.length_replicate]
    omega
  · rw [List.map_append, small, List.map_replicate]
    rfl

theorem spells_escapedChar (c : Char) : SpellsChar c (escapedChar c) := by
  unfold escapedChar
  split
  case h_8 noMark noBackslash _ _ _ _ _ =>
    split
    case isTrue control =>
      obtain ⟨digits, same, four, writes⟩ := writes_controlEscape control
      rw [same]
      exact .code four writes
    case isFalse printable => exact .raw (Nat.not_lt.1 printable) noMark noBackslash
  all_goals exact .named (by decide)

theorem quotes_quotedString (text : String) :
    Script.Quotes SpellsChar '"' text (quotedString text) := by
  refine ⟨text.toList.map escapedChar, ?_, ?_⟩
  · rw [List.forall₂_map_right_iff, List.forall₂_same]
    exact fun c _ => spells_escapedChar c
  · simp [quotedString, List.flatMap]

theorem spells_printed (json : Json) :
    json.AllWords fun word => script.word word (printed (.word word)) := by
  intro word member
  cases word with
  | name text => exact quotes_quotedString text
  | atom value =>
    have atom := atom_of_word_mem member
    cases value with
    | string text => exact quotes_quotedString text
    | bool value => cases value <;> rfl
    | null | number => rfl
    | array | object => cases atom

end Json

namespace Literal

theorem spells_escapedChar {c : Char} (onLine : c ∉ ['\u2028', '\u2029']) :
    SpellsChar '"' c (Json.escapedChar c) := by
  unfold Json.escapedChar
  split
  case h_1 | h_2 => exact .itself (by decide) (by decide) (by decide)
  case h_3 | h_4 | h_5 | h_6 | h_7 => exact .named (by decide)
  case h_8 noMark noBackslash _ _ noFeed noReturn _ =>
    split
    case isTrue control =>
      obtain ⟨digits, same, four, writes⟩ := Json.writes_controlEscape control
      rw [same]
      exact .code four writes
    case isFalse =>
      have inLine : c ∉ lineEnds := by
        simp_all [lineEnds]
      exact .raw noMark noBackslash inLine

theorem spells_quotedString {text : String} (onLine : Json.OnLine text) :
    SpellsString text (Json.quotedString text) := by
  refine ⟨'"', by decide, text.toList.map Json.escapedChar, ?_, ?_⟩
  · rw [List.forall₂_map_right_iff, List.forall₂_same]
    exact fun c inside => spells_escapedChar (onLine c inside)
  · simp [Json.quotedString, List.flatMap]

theorem spells_printed {json : Json} (onLines : json.OnLines) :
    json.AllWords fun word => script.word word (Json.printed (.word word)) := by
  intro word member
  have separators := onLines word member
  cases word with
  | name text => exact .inl (spells_quotedString (separators text rfl))
  | atom value =>
    have atom := Json.atom_of_word_mem member
    cases value with
    | string text => exact spells_quotedString (separators text rfl)
    | bool value => cases value <;> rfl
    | null | number => rfl
    | array | object => cases atom

theorem onOneLine_writes {json : Json} (onLines : json.OnLines) :
    json.onOneLine.Writes script json :=
  Json.onOneLine_writes IsGap.nil (IsEnding.gap .nil) (spells_printed onLines)

end Literal

end CloudAudit
