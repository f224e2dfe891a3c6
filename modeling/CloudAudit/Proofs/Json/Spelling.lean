import CloudAudit.Proofs.Json.Numeral
import CloudAudit.Proofs.Json.Script

/-! What the strict reader takes is spelled as the script says. Whatever words the tokens of a text
stand for, the text is a layout of those words. -/
namespace CloudAudit.Json

open Outline Text

inductive SpellsPiece : Piece → List Char → Prop
  | raw {c : Char} (printable : 0x20 ≤ c.toNat) (noMark : c ≠ '"') (noBackslash : c ≠ '\\') :
    SpellsPiece (.char c) [c]
  | named {letter c : Char} (listed : (letter, c) ∈ namedEscapes) :
    SpellsPiece (.char c) ['\\', letter]
  | code {code : Nat} {digits : List Char} (four : digits.length = 4)
    (writes : WritesHexadecimal code digits) : SpellsPiece (.code code) ('\\' :: 'u' :: digits)

/-- What is found behind `done`, last one first, is spelled by the characters. -/
def SpelledBehind {α : Type} (spells : α → List Char → Prop) (done all : List α)
    (chars : List Char) : Prop :=
  ∃ found spellings, all = done.reverse ++ found ∧ List.Forall₂ spells found spellings ∧
    chars = spellings.flatten

theorem SpelledBehind.nil {α : Type} (spells : α → List Char → Prop) (done : List α) :
    SpelledBehind spells done done.reverse [] :=
  ⟨[], [], (List.append_nil _).symm, .nil, rfl⟩

theorem SpelledBehind.cons {α : Type} {spells : α → List Char → Prop} {done all : List α}
    {next : α} {first rest : List Char} (head : spells next first)
    (behind : SpelledBehind spells (next :: done) all rest) :
    SpelledBehind spells done all (first ++ rest) := by
  obtain ⟨found, spellings, same, tail, rfl⟩ := behind
  exact ⟨next :: found, first :: spellings, by simp [same], .cons head tail, rfl⟩

theorem mem_namedEscapes {letter c : Char} (escape : plainEscape? letter = some c) :
    (letter, c) ∈ namedEscapes := by
  unfold plainEscape? at escape
  split at escape <;> cases escape <;> decide

theorem readPieces_eq {done : List Piece} {text : List Char} {pieces : List Piece × List Char}
    (read : readPieces done text = some pieces) :
    ∃ inner, SpelledBehind SpellsPiece done pieces.1 inner ∧ text = inner ++ '"' :: pieces.2 := by
  fun_induction readPieces done text with
  | case1 | case4 | case6 | case7 => cases read
  | case2 done rest =>
    cases read
    exact ⟨[], .nil _ done, rfl⟩
  | case3 done a b c d rest code number ih =>
    obtain ⟨inner, spelled, rfl⟩ := ih read
    exact ⟨_, spelled.cons (.code rfl (hexNumber?_eq_some_iff.1 number)), rfl⟩
  | case5 done letter rest _ c escape ih =>
    obtain ⟨inner, spelled, rfl⟩ := ih read
    exact ⟨_, spelled.cons (.named (mem_namedEscapes escape)), rfl⟩
  | case8 done c rest noMark noCode noEscape printable ih =>
    -- a backslash gets here only at the end of the text, where no string ends
    have noBackslash : c ≠ '\\' := by
      rintro rfl
      cases rest with
      | nil => cases read
      | cons letter more => exact noEscape letter more rfl rfl
    obtain ⟨inner, spelled, rfl⟩ := ih read
    exact ⟨_, spelled.cons (.raw (Nat.not_lt.1 printable) noMark noBackslash), rfl⟩

theorem SpellsPiece.spellsChar {c : Char} {chars : List Char}
    (spelled : SpellsPiece (.char c) chars) : SpellsChar c chars := by
  cases spelled with
  | raw printable noMark noBackslash => exact .raw printable noMark noBackslash
  | named listed => exact .named listed

/-- A code that is no half of a pair is a character. -/
theorem SpellsPiece.spellsCode {code : Nat} {chars : List Char}
    (spelled : SpellsPiece (.code code) chars) (noLead : isLeadSurrogate code = false)
    (noTrail : isTrailSurrogate code = false) : SpellsChar (Char.ofNat code) chars := by
  cases spelled with
  | @code _ digits four writes =>
    have small : code < 16 ^ 4 := four ▸ writes.lt (by omega)
    have value : (Char.ofNat code).toNat = code := by
      apply toNat_ofNat
      simp only [isLeadSurrogate, isTrailSurrogate, Bool.and_eq_false_iff,
        decide_eq_false_iff_not] at noLead noTrail
      simp only [Nat.isValidChar]
      omega
    exact .code four (value.symm ▸ writes)

theorem SpellsPiece.spellsPair {lead trail : Nat} {first second : List Char}
    (spelledLead : SpellsPiece (.code lead) first) (spelledTrail : SpellsPiece (.code trail) second)
    (isLead : isLeadSurrogate lead = true) (isTrail : isTrailSurrogate trail = true) :
    SpellsChar (Char.ofNat (0x10000 + (lead - 0xD800) * 0x400 + (trail - 0xDC00)))
      (first ++ second) := by
  simp only [isLeadSurrogate, isTrailSurrogate, Bool.and_eq_true, decide_eq_true_eq]
    at isLead isTrail
  have value : (Char.ofNat (0x10000 + (lead - 0xD800) * 0x400 + (trail - 0xDC00))).toNat =
      0x10000 + (lead - 0xD800) * 0x400 + (trail - 0xDC00) := by
    apply toNat_ofNat
    simp only [Nat.isValidChar]
    omega
  cases spelledLead with
  | code fourLead writesLead =>
    cases spelledTrail with
    | code fourTrail writesTrail =>
      refine .pair ?_ fourLead fourTrail ?_ ?_
      · omega
      · rw [value]
        convert writesLead using 1
        omega
      · rw [value]
        convert writesTrail using 1
        omega

theorem joinPieces_eq {done text : List Char} {pieces : List Piece}
    (joined : joinPieces done pieces = some text) {spellings : List (List Char)}
    (spelled : List.Forall₂ SpellsPiece pieces spellings) :
    SpelledBehind SpellsChar done text spellings.flatten := by
  fun_induction joinPieces done pieces generalizing spellings with
  | case1 done =>
    cases joined
    cases spelled
    exact .nil _ done
  | case2 done c rest ih =>
    obtain ⟨chars, more, head, tail, rfl⟩ := List.forall₂_cons_left_iff.1 spelled
    exact (ih joined tail).cons head.spellsChar
  | case3 done lead trail rest isLead isTrail ih =>
    obtain ⟨first, behind, headLead, tail, rfl⟩ := List.forall₂_cons_left_iff.1 spelled
    obtain ⟨second, more, headTrail, others, rfl⟩ := List.forall₂_cons_left_iff.1 tail
    have both := (ih joined others).cons (headLead.spellsPair headTrail isLead isTrail)
    simpa using both
  | case4 | case5 | case7 => cases joined
  | case6 done lead trail rest noLead noTrail ih =>
    obtain ⟨chars, more, head, tail, rfl⟩ := List.forall₂_cons_left_iff.1 spelled
    exact (ih joined tail).cons
      (head.spellsCode (Bool.eq_false_iff.2 noLead) (Bool.eq_false_iff.2 noTrail))
  | case8 done code rest _ noSurrogate ih =>
    obtain ⟨chars, more, head, tail, rfl⟩ := List.forall₂_cons_left_iff.1 spelled
    obtain ⟨noLead, noTrail⟩ := not_or.1 (mt Bool.or_eq_true_iff.2 noSurrogate)
    exact (ih joined tail).cons
      (head.spellsCode (Bool.eq_false_iff.2 noLead) (Bool.eq_false_iff.2 noTrail))

theorem readString?_eq {text : List Char} {string : String × List Char}
    (read : readString? text = some string) :
    ∃ chars, Script.Quotes SpellsChar '"' string.1 chars ∧ '"' :: text = chars ++ string.2 := by
  obtain ⟨pieces, first, read⟩ := Option.bind_eq_some_iff.1 read
  obtain ⟨s, joined, rfl⟩ := Option.map_eq_some_iff.1 read
  obtain ⟨_, ⟨found, spellings, same, spelled, rfl⟩, rfl⟩ := readPieces_eq first
  rw [List.reverse_nil, List.nil_append] at same
  obtain ⟨_, grouped, rfl, all, flat⟩ := joinPieces_eq (same ▸ joined) spelled
  refine ⟨_, ⟨grouped, ?_, rfl⟩, ?_⟩
  · simpa using all
  · simp [flat]

theorem readNumber?_eq {text : List Char} {number : String × List Char}
    (read : readNumber? text = some number) :
    IsNumber number.1 ∧ text = number.1.toList ++ number.2 := by
  simp only [readNumber?] at read
  split at read
  case isTrue valid =>
    cases read
    rw [IsNumber, String.toList_ofList]
    exact ⟨⟨valid, List.all_eq_true.1 List.all_takeWhile⟩, List.takeWhile_append_dropWhile.symm⟩
  case isFalse => cases read

theorem readName?_eq {name text : List Char} {value : Json} {token : Token × List Char}
    (read : readName? name value text = some token) :
    token.1 = .word value ∧ text = name ++ token.2 := by
  rw [readName?] at read
  split at read
  case isTrue begins =>
    cases read
    obtain ⟨rest, rfl⟩ := List.isPrefixOf_iff_prefix.1 begins
    exact ⟨rfl, by simp⟩
  case isFalse => cases read

def Spells (chars : List Char) (found : Token) : Prop :=
  ∀ token, Token.Alike Stands token found →
    script.spells token chars ∧ ∀ word, token = .word word → Readable word

theorem spells_word {chars : List Char} {value : Json}
    (each : ∀ word, Stands word value → script.word word chars ∧ Readable word) :
    Spells chars (.word value) := by
  intro token alike
  cases alike with
  | word stands =>
    obtain ⟨spelled, readable⟩ := each _ stands
    exact ⟨spelled, by rintro word ⟨⟩; exact readable⟩

/-- Only strings stand for names. -/
theorem spells_atom {chars : List Char} {value : Json} (other : ∀ text, value ≠ .string text)
    (spelled : script.word (.atom value) chars) (readable : Readable (.atom value)) :
    Spells chars (.word value) := by
  apply spells_word
  intro word stands
  cases word with
  | name text => exact absurd stands (other text)
  | atom atom =>
    cases stands
    exact ⟨spelled, readable⟩

theorem spells_string {text : String} {chars : List Char}
    (quotes : Script.Quotes SpellsChar '"' text chars) : Spells chars (.word (.string text)) := by
  apply spells_word
  intro word stands
  cases word with
  | name name =>
    cases stands
    exact ⟨quotes, trivial⟩
  | atom atom =>
    cases stands
    exact ⟨quotes, trivial⟩

theorem readToken?_eq {c : Char} {rest : List Char} {token : Token × List Char}
    (read : readToken? c rest = some token) :
    ∃ chars, c :: rest = chars ++ token.2 ∧ Spells chars token.1 := by
  unfold readToken? at read
  split at read
  case h_7 =>
    obtain ⟨string, inner, rfl⟩ := Option.map_eq_some_iff.1 read
    obtain ⟨chars, quotes, split⟩ := readString?_eq inner
    exact ⟨chars, split, spells_string quotes⟩
  case h_8 =>
    obtain ⟨same, rfl⟩ := readName?_eq read
    rw [same]
    exact ⟨"null".toList, rfl, spells_atom nofun rfl trivial⟩
  case h_9 =>
    obtain ⟨same, rfl⟩ := readName?_eq read
    rw [same]
    exact ⟨"true".toList, rfl, spells_atom nofun rfl trivial⟩
  case h_10 =>
    obtain ⟨same, rfl⟩ := readName?_eq read
    rw [same]
    exact ⟨"false".toList, rfl, spells_atom nofun rfl trivial⟩
  case h_11 =>
    obtain ⟨number, inner, rfl⟩ := Option.map_eq_some_iff.1 read
    obtain ⟨isNumber, split⟩ := readNumber?_eq inner
    exact ⟨_, split, spells_atom nofun rfl isNumber⟩
  all_goals
    cases read
    refine ⟨[_], rfl, fun token alike => ?_⟩
    cases alike
    exact ⟨rfl, nofun⟩

/-- A text in which the tokens stand one after the other, its words readable. -/
def SetsOut (text : List Char) (tokens : List (Outline.Token Unit Word)) : Prop :=
  ∃ layout : Layout, layout.chars = text ∧ layout.tokens = tokens ∧
    (∀ lexeme ∈ layout.lexemes, script.gap lexeme.gap ∧
      script.spells lexeme.token lexeme.chars ∧ ∀ word, lexeme.token = .word word → Readable word) ∧
    script.ending layout.ending

theorem SetsOut.nil : SetsOut [] [] :=
  ⟨⟨[], []⟩, rfl, rfl, List.forall_mem_nil _, List.forall_mem_nil _⟩

theorem SetsOut.blank {c : Char} (blank : isBlank c = true) {text : List Char}
    {tokens : List (Outline.Token Unit Word)} (sets : SetsOut text tokens) :
    SetsOut (c :: text) tokens := by
  have listed : c ∈ [' ', '\t', '\n', '\r'] := by simpa [isBlank, or_assoc] using blank
  obtain ⟨⟨lexemes, ending⟩, rfl, rfl, each, ended⟩ := sets
  cases lexemes with
  | nil => exact ⟨⟨[], c :: ending⟩, rfl, rfl, each, List.forall_mem_cons.2 ⟨listed, ended⟩⟩
  | cons first rest =>
    obtain ⟨⟨gap, spelled⟩, others⟩ := List.forall_mem_cons.1 each
    refine ⟨⟨{ first with gap := c :: first.gap } :: rest, ending⟩, rfl, rfl, ?_, ended⟩
    exact List.forall_mem_cons.2 ⟨⟨List.forall_mem_cons.2 ⟨listed, gap⟩, spelled⟩, others⟩

theorem SetsOut.cons {chars : List Char} {found : Token} (spelled : Spells chars found)
    {token : Outline.Token Unit Word} (alike : Token.Alike Stands token found) {text : List Char}
    {tokens : List (Outline.Token Unit Word)} (sets : SetsOut text tokens) :
    SetsOut (chars ++ text) (token :: tokens) := by
  obtain ⟨⟨lexemes, ending⟩, rfl, rfl, each, ended⟩ := sets
  refine ⟨⟨⟨[], token, chars⟩ :: lexemes, ending⟩, ?_, rfl, ?_, ended⟩
  · simp [Layout.chars]
  · exact List.forall_mem_cons.2 ⟨⟨List.forall_mem_nil _, spelled token alike⟩, each⟩

theorem Spells.isAtom {chars : List Char} {value : Json}
    (spelled : Spells chars (.word value)) : value.isAtom = true := by
  obtain ⟨written, _⟩ := spelled (.word (.atom value)) (.word rfl)
  cases value with
  | array | object => cases written
  | null | bool | number | string => rfl

/-- The tokens of a text are set out in it, whatever words they stand for. -/
theorem readTokens_eq {done all : List Token} {text : List Char}
    (read : readTokens done text = some all) :
    ∃ found, all = done.reverse ++ found ∧
      (∀ value, .word value ∈ found → value.isAtom = true) ∧
      ∀ tokens, List.Forall₂ (Token.Alike Stands) tokens found → SetsOut text tokens := by
  fun_induction readTokens done text with
  | case1 done =>
    cases read
    refine ⟨[], by simp, nofun, fun tokens alike => ?_⟩
    cases alike
    exact .nil
  | case2 done c rest blank ih =>
    obtain ⟨found, same, atoms, sets⟩ := ih read
    exact ⟨found, same, atoms, fun tokens alike => (sets tokens alike).blank blank⟩
  | case3 => cases read
  | case4 done c rest _ token first ih =>
    obtain ⟨found, same, atoms, sets⟩ := ih read
    obtain ⟨chars, split, spelled⟩ := readToken?_eq first
    refine ⟨token.1 :: found, by simp [same], fun value inside => ?_, fun tokens alike => ?_⟩
    · rcases List.mem_cons.1 inside with here | later
      · rw [← here] at spelled
        exact spelled.isAtom
      · exact atoms value later
    · obtain ⟨word, others, head, tail, rfl⟩ := List.forall₂_cons_right_iff.1 alike
      rw [split]
      exact (sets others tail).cons spelled head

end CloudAudit.Json
