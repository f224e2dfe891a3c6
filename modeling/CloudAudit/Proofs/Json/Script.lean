import CloudAudit.Json.Reader
import CloudAudit.Proofs.Outline.Layout
import CloudAudit.Proofs.Text.Hexadecimal

/-! How JSON documents are written. The strict reader reads every layout of a document as the
document, if it is no deeper than the reader goes and its numbers are numbers. -/
namespace CloudAudit.Json

open Outline Text

def namedEscapes : List (Char × Char) :=
  [('"', '"'), ('\\', '\\'), ('/', '/'), ('b', '\x08'), ('f', '\x0c'), ('n', '\n'), ('r', '\r'),
  ('t', '\t')]

inductive SpellsChar (c : Char) : List Char → Prop
  | raw (printable : 0x20 ≤ c.toNat) (noMark : c ≠ '"') (noBackslash : c ≠ '\\') : SpellsChar c [c]
  | named {letter : Char} (listed : (letter, c) ∈ namedEscapes) : SpellsChar c ['\\', letter]
  | code {digits : List Char} (four : digits.length = 4)
    (writes : WritesHexadecimal c.toNat digits) : SpellsChar c ('\\' :: 'u' :: digits)
  | pair {lead trail : List Char} (large : 0x10000 ≤ c.toNat)
    (fourLead : lead.length = 4) (fourTrail : trail.length = 4)
    (writesLead : WritesHexadecimal (0xD800 + (c.toNat - 0x10000) / 0x400) lead)
    (writesTrail : WritesHexadecimal (0xDC00 + (c.toNat - 0x10000) % 0x400) trail) :
    SpellsChar c ('\\' :: 'u' :: lead ++ '\\' :: 'u' :: trail)

def script : Script where
  gap gap := ∀ c ∈ gap, c ∈ [' ', '\t', '\n', '\r']
  ending gap := ∀ c ∈ gap, c ∈ [' ', '\t', '\n', '\r']
  word := Script.wordOf (Script.Quotes SpellsChar '"') (Script.Quotes SpellsChar '"')
  closingComma := false

instance : DecidablePred script.gap :=
  fun gap => List.decidableBAll (· ∈ [' ', '\t', '\n', '\r']) gap

theorem readPieces_code {digits : List Char} (four : digits.length = 4) {code : Nat}
    (writes : WritesHexadecimal code digits) (done : List Piece) (rest : List Char) :
    readPieces done ('\\' :: 'u' :: digits ++ rest) = readPieces (.code code :: done) rest := by
  match digits with
  | [a, b, c, d] =>
    have number := hexNumber?_of_writes writes
    simp [readPieces, number]

theorem readPieces_named {letter c : Char} (listed : (letter, c) ∈ namedEscapes)
    (done : List Piece) (rest : List Char) :
    readPieces done ('\\' :: letter :: rest) = readPieces (.char c :: done) rest := by
  simp only [namedEscapes, List.mem_cons, Prod.mk.injEq, List.not_mem_nil, or_false] at listed
  rcases listed with ⟨rfl, rfl⟩ | ⟨rfl, rfl⟩ | ⟨rfl, rfl⟩ | ⟨rfl, rfl⟩ | ⟨rfl, rfl⟩ | ⟨rfl, rfl⟩ |
    ⟨rfl, rfl⟩ | ⟨rfl, rfl⟩ <;> simp [readPieces, plainEscape?]

theorem joinPieces_code (c : Char) (done : List Char) (more : List Piece) :
    joinPieces done (.code c.toNat :: more) = joinPieces (c :: done) more := by
  obtain ⟨noLead, noTrail⟩ := not_surrogate c
  cases more with
  | nil => simp [joinPieces, noLead, noTrail]
  -- a code behind it changes nothing, as this one is no half of a pair
  | cons next rest => cases next <;> simp [joinPieces, noLead, noTrail]

theorem joinPieces_pair {c : Char} (large : 0x10000 ≤ c.toNat) (done : List Char)
    (more : List Piece) :
    joinPieces done (.code (0xD800 + (c.toNat - 0x10000) / 0x400) ::
      .code (0xDC00 + (c.toNat - 0x10000) % 0x400) :: more) = joinPieces (c :: done) more := by
  have valid : c.toNat < 0xD800 ∨ 0xDFFF < c.toNat ∧ c.toNat < 0x110000 := c.valid
  have lead : isLeadSurrogate (0xD800 + (c.toNat - 0x10000) / 0x400) = true := by
    simp only [isLeadSurrogate, Bool.and_eq_true, decide_eq_true_eq]
    omega
  have trail : isTrailSurrogate (0xDC00 + (c.toNat - 0x10000) % 0x400) = true := by
    simp only [isTrailSurrogate, Bool.and_eq_true, decide_eq_true_eq]
    omega
  have joined : 0x10000 + (0xD800 + (c.toNat - 0x10000) / 0x400 - 0xD800) * 0x400 +
      (0xDC00 + (c.toNat - 0x10000) % 0x400 - 0xDC00) = c.toNat := by omega
  rw [joinPieces, if_pos lead, if_pos trail, joined, Char.ofNat_toNat]

theorem SpellsChar.inPieces {c : Char} {chars : List Char} (spelled : SpellsChar c chars) :
    Script.InPieces readPieces joinPieces [c] chars := by
  cases spelled with
  | raw printable noMark noBackslash =>
    refine ⟨[.char c], fun done rest => ?_, fun _ _ => rfl⟩
    simp [readPieces, noBackslash, Nat.not_lt_of_le printable]
  | named listed =>
    exact ⟨[.char c], fun done rest => readPieces_named listed done rest, fun _ _ => rfl⟩
  | code four writes =>
    exact ⟨[.code c.toNat], readPieces_code four writes, joinPieces_code c⟩
  | @pair lead trail large fourLead fourTrail writesLead writesTrail =>
    refine ⟨[.code _, .code _], fun done rest => ?_, joinPieces_pair large⟩
    have split : '\\' :: 'u' :: lead ++ '\\' :: 'u' :: trail ++ rest =
        '\\' :: 'u' :: lead ++ ('\\' :: 'u' :: trail ++ rest) := by simp
    rw [split, readPieces_code fourLead writesLead, readPieces_code fourTrail writesTrail]
    rfl

theorem readString?_of_quotes {text : String} {chars : List Char}
    (quotes : Script.Quotes SpellsChar '"' text chars) :
    ∃ inner, chars = '"' :: inner ∧ ∀ rest, readString? (inner ++ rest) = some (text, rest) := by
  obtain ⟨spellings, spelled, rfl⟩ := quotes
  obtain ⟨pieces, reads, joins⟩ := Script.inPieces_of_spellings SpellsChar.inPieces spelled
  have joined := joins [] []
  refine ⟨_, rfl, fun rest => ?_⟩
  have ended : readPieces [] (spellings.flatten ++ ['"'] ++ rest) = some (pieces, rest) := by
    rw [List.append_assoc, reads]
    simp [readPieces]
  rw [List.append_nil, List.append_nil] at joined
  rw [readString?, ended, Option.bind_some, joined]
  simp [joinPieces]

theorem readTokens_gap {gap : List Char} (blank : script.gap gap) (done : List Token)
    (rest : List Char) : readTokens done (gap ++ rest) = readTokens done rest := by
  induction gap with
  | nil => rfl
  | cons c more ih =>
    have isBlank : isBlank c = true := by
      have listed := blank c (.head _)
      simpa [isBlank, or_assoc] using listed
    rw [List.cons_append, readTokens, if_pos isBlank]
    exact ih fun c inside => blank c (.tail _ inside)

def ReadsAs (chars rest : List Char) (token : Token) : Prop :=
  ∃ c more, chars ++ rest = c :: more ∧ isBlank c = false ∧ readToken? c more = some (token, rest)

theorem ReadsAs.readTokens {chars rest : List Char} {token : Token}
    (reads : ReadsAs chars rest token) (done : List Token) :
    readTokens done (chars ++ rest) = readTokens (token :: done) rest := by
  obtain ⟨c, more, split, visible, read⟩ := reads
  rw [split, Json.readTokens, if_neg (by simp [visible])]
  split
  · simp_all
  · simp_all

def IsNumber (text : String) : Prop :=
  isNumber text.toList = true ∧ ∀ c ∈ text.toList, isNumeralChar c = true

def Readable : Word → Prop
  | .atom (.number text) => IsNumber text
  | _ => True

def Stands : Word → Json → Prop
  | .name text, value => value = .string text
  | .atom atom, value => value = atom

theorem readNumber?_of_isNumber {text : String} (number : IsNumber text) {rest : List Char}
    (parts : script.Parts rest) : readNumber? (text.toList ++ rest) = some (text, rest) := by
  have gaps : ∀ c rest, script.gap (c :: rest) ∨ script.ending (c :: rest) →
      isNumeralChar c = false := by
    intro c rest blank
    have listed : c ∈ [' ', '\t', '\n', '\r'] := blank.elim (· c (.head _)) (· c (.head _))
    have noNumeral : [' ', '\t', '\n', '\r'].all (!isNumeralChar ·) = true := by decide
    simpa using List.all_eq_true.1 noNumeral c listed
  obtain ⟨taken, left⟩ := parts.span gaps (by decide) number.2
  rw [readNumber?, taken, left, if_pos number.1, String.ofList_toList]

theorem readToken?_numeralChar {c : Char} (numeral : isNumeralChar c = true) (rest : List Char) :
    isBlank c = false ∧ readToken? c rest =
      (readNumber? (c :: rest)).map fun number => (.word (.number number.1), number.2) := by
  constructor
  · rw [Bool.eq_false_iff]
    intro blank
    simp only [isBlank, Bool.or_eq_true, decide_eq_true_eq] at blank
    rcases blank with ((rfl | rfl) | rfl) | rfl <;> cases numeral
  · unfold readToken?
    split
    case h_11 => rfl
    all_goals cases numeral

theorem readsAs_number {text : String} (number : IsNumber text) {rest : List Char}
    (parts : script.Parts rest) : ReadsAs text.toList rest (.word (.number text)) := by
  have read := readNumber?_of_isNumber number parts
  have nonempty := isNumber_ne_nil number.1
  have numeral := number.2
  cases split : text.toList with
  | nil => exact absurd split nonempty
  | cons c more =>
    rw [split] at read numeral
    obtain ⟨visible, token⟩ := readToken?_numeralChar (numeral c (.head _)) (more ++ rest)
    refine ⟨c, more ++ rest, rfl, visible, ?_⟩
    rw [token, ← List.cons_append, read]
    rfl

theorem readsAs_string {text : String} {chars : List Char}
    (quotes : Script.Quotes SpellsChar '"' text chars) (rest : List Char) :
    ReadsAs chars rest (.word (.string text)) := by
  obtain ⟨inner, rfl, reads⟩ := readString?_of_quotes quotes
  refine ⟨'"', inner ++ rest, rfl, rfl, ?_⟩
  have token : readToken? '"' (inner ++ rest) =
      (readString? (inner ++ rest)).map fun string => (.word (.string string.1), string.2) := rfl
  rw [token, reads]
  rfl

theorem readsAs_word {word : Word} {chars : List Char} (spelled : script.word word chars)
    (readable : Readable word) {rest : List Char} (parts : script.Parts rest) :
    ∃ value, Stands word value ∧ ReadsAs chars rest (.word value) := by
  cases word with
  | name text => exact ⟨.string text, rfl, readsAs_string spelled rest⟩
  | atom atom =>
    refine ⟨atom, rfl, ?_⟩
    cases atom with
    | string text => exact readsAs_string spelled rest
    | null =>
      cases spelled
      exact ⟨'n', "ull".toList ++ rest, rfl, rfl, rfl⟩
    | bool value =>
      cases value with
      | true =>
        cases spelled
        exact ⟨'t', "rue".toList ++ rest, rfl, rfl, rfl⟩
      | false =>
        cases spelled
        exact ⟨'f', "alse".toList ++ rest, rfl, rfl, rfl⟩
    | number text =>
      cases spelled
      exact readsAs_number readable parts
    | array | object => cases spelled

theorem readsAs_token {token : Outline.Token Unit Word} {chars rest : List Char}
    (spelled : script.spells token chars)
    (known : ∀ word, token = .word word → Readable word ∧ script.Parts rest) :
    ∃ found, Token.Alike Stands token found ∧ ReadsAs chars rest found := by
  cases token with
  | word word =>
    obtain ⟨readable, parts⟩ := known word rfl
    obtain ⟨value, stands, reads⟩ := readsAs_word spelled readable parts
    exact ⟨.word value, .word stands, reads⟩
  | openList mark =>
    cases spelled; exact ⟨.openList (), .openList mark (), '[', rest, rfl, rfl, rfl⟩
  | closeList => cases spelled; exact ⟨.closeList, .closeList, ']', rest, rfl, rfl, rfl⟩
  | openRecord mark =>
    cases spelled; exact ⟨.openRecord (), .openRecord mark (), '{', rest, rfl, rfl, rfl⟩
  | closeRecord => cases spelled; exact ⟨.closeRecord, .closeRecord, '}', rest, rfl, rfl, rfl⟩
  | comma => cases spelled; exact ⟨.comma, .comma, ',', rest, rfl, rfl, rfl⟩
  | colon => cases spelled; exact ⟨.colon, .colon, ':', rest, rfl, rfl, rfl⟩

theorem script_readBy : script.ReadBy readTokens Readable Stands where
  finish done gap blank := by
    have skipped := readTokens_gap blank done []
    rw [List.append_nil] at skipped
    rw [skipped, readTokens]
  next done rest gap token chars blank spelled known := by
    obtain ⟨found, alike, reads⟩ := readsAs_token spelled known
    exact ⟨found, alike, (readTokens_gap blank done _).trans (reads.readTokens done)⟩

theorem format_takes : format.Takes Stands Eq Eq where
  key := by
    rintro name word rfl
    exact ⟨name, rfl, rfl⟩
  value := by
    rintro atom word rfl
    exact ⟨_, rfl, rfl⟩
  list := by
    intro items values _ same
    rw [List.forall₂_eq_eq_eq] at same
    exact congrArg _ same
  record := by
    intro members pairs _ same
    have equal : members = pairs := by
      rw [← List.forall₂_eq_eq_eq]
      exact same.imp fun _ _ both => Prod.ext both.1 both.2
    exact congrArg _ equal

theorem read?_nil : read? [] = none := by
  have noTokens : readTokens [] [] = some [] := by
    rw [readTokens]
    rfl
  rw [read?, noTokens]
  rfl

/-- Every layout of a document is read as the document. -/
theorem read?_of_writes {layout : Layout} {json : Json} (writes : layout.Writes script json)
    (readable : json.AllWords Readable)
    (shallow : json.depth ≤ deepest) : read? layout.chars = some json := by
  have room : ∀ limit ∈ format.depth, json.depth ≤ limit := by
    intro limit bound
    cases bound
    exact shallow
  obtain ⟨value, reads, rfl⟩ := writes.read script_readBy format_takes nofun readable room
  exact reads

theorem ofBytes?_toUTF8 (text : List Char) :
    ofBytes? (String.ofList text).toUTF8 = read? text := by
  have decoded : String.fromUTF8? (String.ofList text).toUTF8 = some (String.ofList text) :=
    dif_pos (String.ofList text).isValidUTF8
  rw [ofBytes?, decoded, Option.bind_some, String.toList_ofList]

end CloudAudit.Json
