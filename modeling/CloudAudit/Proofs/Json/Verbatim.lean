import CloudAudit.Proofs.Json.Printed

/-! JSON texts by what is written in them. A string or a name is kept as the characters between its
quotation marks, whether these mean a text or not, and a number may have any size. -/
namespace CloudAudit.Json

open Outline

/-- What may stand between the marks of a string. A code may be half of a pair without the other. -/
def IsInner (inner : List Char) : Prop :=
  ∃ pieces spellings, List.Forall₂ SpellsPiece pieces spellings ∧ inner = spellings.flatten

def marked (inner : String) : List Char := '"' :: (inner.toList ++ ['"'])

def Says (inner text : String) : Prop := Script.Quotes SpellsChar '"' text (marked inner)

def verbatim : Script where
  gap := script.gap
  ending := script.ending
  word :=
    Script.wordOf (fun inner chars => IsInner inner.toList ∧ chars = marked inner)
      fun inner chars => IsInner inner.toList ∧ chars = marked inner
  closingComma := false

/-- The text is JSON, and the document is what is written in it. -/
def Records (written : Json) (text : String) : Prop :=
  ∃ layout : Layout, layout.Writes verbatim written ∧ written.AllWords Grammatical ∧
    text = String.ofList layout.chars

theorem SpellsPiece.readPieces {piece : Piece} {chars : List Char}
    (spelled : SpellsPiece piece chars) (done : List Piece) (rest : List Char) :
    Json.readPieces done (chars ++ rest) = Json.readPieces (piece :: done) rest := by
  cases spelled with
  | raw printable noMark noBackslash =>
    simp [Json.readPieces, noBackslash, Nat.not_lt_of_le printable]
  | named listed => exact readPieces_named listed done rest
  | code four writes => exact readPieces_code four writes done rest

theorem readPieces_flatten {pieces : List Piece} {spellings : List (List Char)}
    (spelled : List.Forall₂ SpellsPiece pieces spellings) (done : List Piece) (rest : List Char) :
    readPieces done (spellings.flatten ++ '"' :: rest) =
      some (done.reverse ++ pieces, rest) := by
  induction spelled generalizing done with
  | nil => simp [readPieces]
  | cons head _ ih =>
    rw [List.flatten_cons, List.append_assoc, head.readPieces, ih]
    simp

/-- What is between the marks means a text if its pieces are joined to the text. -/
theorem says_iff {inner : String} {pieces : List Piece} {spellings : List (List Char)}
    (spelled : List.Forall₂ SpellsPiece pieces spellings) (same : inner.toList = spellings.flatten)
    (text : String) : Says inner text ↔ joinPieces [] pieces = some text.toList := by
  constructor
  · intro quotes
    obtain ⟨behind, split, reads⟩ := readString?_of_quotes quotes
    obtain rfl := (List.cons.inj split).2
    have read := reads []
    rw [List.append_nil, same, readString?, readPieces_flatten spelled, Option.bind_some,
      Option.map_eq_some_iff] at read
    obtain ⟨chars, joined, equal⟩ := read
    cases equal
    rwa [String.toList_ofList]
  · intro joined
    obtain ⟨found, grouped, all, each, flat⟩ := joinPieces_eq joined spelled
    rw [List.reverse_nil, List.nil_append] at all
    exact ⟨grouped, all ▸ each, by rw [marked, same, flat]⟩

theorem says_iff_readString? {inner text : String} :
    Says inner text ↔ readString? (inner.toList ++ ['"']) = some (text, []) := by
  constructor
  · intro quotes
    obtain ⟨behind, split, reads⟩ := readString?_of_quotes quotes
    obtain rfl := (List.cons.inj split).2
    rw [← reads [], List.append_nil]
  · intro read
    obtain ⟨chars, quotes, split⟩ := readString?_eq read
    rw [List.append_nil] at split
    rw [Says, marked, split]
    exact quotes

instance (inner text : String) : Decidable (Says inner text) :=
  decidable_of_iff _ says_iff_readString?.symm

instance (inner : String) : Decidable (∃ text, Says inner text) :=
  decidable_of_iff (∃ read ∈ readString? (inner.toList ++ ['"']), read.2 = []) <| by
    simp only [says_iff_readString?]
    constructor
    · rintro ⟨⟨text, _⟩, read, rfl⟩
      exact ⟨text, read⟩
    · rintro ⟨text, read⟩
      exact ⟨_, read, rfl⟩

theorem isInner_iff (inner : List Char) :
    IsInner inner ↔ ∃ read ∈ readPieces [] (inner ++ ['"']), read.2 = [] := by
  constructor
  · rintro ⟨pieces, spellings, spelled, rfl⟩
    exact ⟨_, readPieces_flatten spelled [] [], rfl⟩
  · rintro ⟨⟨pieces, _⟩, read, rfl⟩
    obtain ⟨_, ⟨found, spellings, _, spelled, rfl⟩, split⟩ := readPieces_eq read
    exact ⟨found, spellings, spelled, List.append_cancel_right split⟩

instance : DecidablePred IsInner := fun inner => decidable_of_iff _ (isInner_iff inner).symm

/-- By the grammar of JSON, but for what it means. -/
def WellFormed (word : Word) : Prop :=
  Grammatical word ∧ ∀ inner ∈ word.text?, IsInner inner.toList

instance : DecidablePred WellFormed := fun _ => inferInstanceAs (Decidable (_ ∧ _))

theorem isInner_of_verbatim {word : Word} {chars : List Char} (spelled : verbatim.word word chars)
    {inner : String} (isText : inner ∈ word.text?) :
    IsInner inner.toList ∧ chars = marked inner := by
  cases word with
  | name =>
    cases isText
    exact spelled
  | atom atom =>
    cases atom <;> cases isText
    exact spelled

theorem Records.wellFormed {written : Json} {text : String} (records : written.Records text) :
    written.AllWords WellFormed := by
  obtain ⟨layout, writes, grammatical, _⟩ := records
  have tokens : layout.tokens = written.tokens := writes.tokens
  intro word inside
  refine ⟨grammatical word inside, fun inner isText => ?_⟩
  rw [← tokens] at inside
  obtain ⟨lexeme, listed, same⟩ := List.mem_map.1 inside
  have spelled := (writes.lexemes lexeme listed).2
  rw [same] at spelled
  exact (isInner_of_verbatim spelled isText).1

/-- A document whose texts need no escapes stands in its own printed text. -/
theorem records_of_eq_compact {json : Json} {text : String} (printed : text = json.compact)
    (wellFormed : json.AllWords WellFormed)
    (bare : json.AllWords fun word => ∀ inner ∈ word.text?, quotedString inner = marked inner) :
    json.Records text := by
  refine ⟨json.onOneLine, onOneLine_writes (List.forall_mem_nil _) (List.forall_mem_nil _) ?_,
    fun word inside => (wellFormed word inside).1, by rw [printed, onOneLine_chars, compact]⟩
  intro word inside
  have texts := (wellFormed word inside).2
  have printed := bare word inside
  cases word with
  | name inner => exact ⟨texts inner rfl, printed inner rfl⟩
  | atom value =>
    have atom := atom_of_word_mem inside
    cases value with
    | string inner => exact ⟨texts inner rfl, printed inner rfl⟩
    | bool value => cases value <;> rfl
    | null | number => rfl
    | array | object => cases atom

end CloudAudit.Json
