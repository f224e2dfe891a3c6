import CloudAudit.Literal.Meaning
import CloudAudit.Proofs.Outline.Layout
import CloudAudit.Proofs.Text.Hexadecimal

/-! How documents are written as JSON5 literals. Every such writing of a document is read as a
literal that means the document. -/
namespace CloudAudit.Literal

open Outline Text

def lineEnds : List Char := ['\n', '\r', '\u2028', '\u2029']

def blanks : List Char :=
  lineEnds ++ ['\t', '\x0b', '\x0c', ' ', '\u00a0', '\u1680', '\u2000', '\u2001', '\u2002',
    '\u2003', '\u2004', '\u2005', '\u2006', '\u2007', '\u2008', '\u2009', '\u200a', '\u202f',
    '\u205f', '\u3000', '\ufeff']

inductive IsGap : List Char → Prop
  | nil : IsGap []
  | blank {c : Char} {rest : List Char} (listed : c ∈ blanks) (more : IsGap rest) :
    IsGap (c :: rest)
  | line {comment : List Char} {c : Char} {rest : List Char} (inside : ∀ c ∈ comment, c ∉ lineEnds)
    (ends : c ∈ lineEnds) (more : IsGap rest) : IsGap ('/' :: '/' :: (comment ++ c :: rest))
  | block {comment rest : List Char} (inside : ¬ ['*', '/'] <:+: comment) (more : IsGap rest) :
    IsGap ('/' :: '*' :: (comment ++ '*' :: '/' :: rest))

theorem isGap_of_blanks {gap : List Char} (blank : ∀ c ∈ gap, c ∈ blanks) : IsGap gap := by
  induction gap with
  | nil => exact .nil
  | cons c rest ih =>
    obtain ⟨listed, others⟩ := List.forall_mem_cons.1 blank
    exact .blank listed (ih others)

/-- The comment on the last line need not be closed. -/
inductive IsEnding : List Char → Prop
  | gap {gap : List Char} (isGap : IsGap gap) : IsEnding gap
  | line {gap comment : List Char} (isGap : IsGap gap) (inside : ∀ c ∈ comment, c ∉ lineEnds) :
    IsEnding (gap ++ '/' :: '/' :: comment)

def namedEscapes : List (Char × Char) :=
  [('b', '\x08'), ('f', '\x0c'), ('n', '\n'), ('r', '\r'), ('t', '\t'), ('v', '\x0b'),
  ('0', '\x00')]

inductive SpellsChar (mark c : Char) : List Char → Prop
  | raw (noMark : c ≠ mark) (noBackslash : c ≠ '\\') (inLine : c ∉ lineEnds) :
    SpellsChar mark c [c]
  | named {letter : Char} (listed : (letter, c) ∈ namedEscapes) : SpellsChar mark c ['\\', letter]
  | itself (noDigit : c.isDigit = false) (plain : c ∉ ['b', 'f', 'n', 'r', 't', 'v', 'x', 'u'])
    (inLine : c ∉ lineEnds) : SpellsChar mark c ['\\', c]
  | byte {digits : List Char} (two : digits.length = 2)
    (writes : WritesHexadecimal c.toNat digits) : SpellsChar mark c ('\\' :: 'x' :: digits)
  | code {digits : List Char} (four : digits.length = 4)
    (writes : WritesHexadecimal c.toNat digits) : SpellsChar mark c ('\\' :: 'u' :: digits)

def SpellsString (text : String) (chars : List Char) : Prop :=
  ∃ mark ∈ ['"', '\''], Script.Quotes (SpellsChar mark) mark text chars

def letters : List Char := "ABCDEFGHIJKLMNOPQRSTUVWXYZabcdefghijklmnopqrstuvwxyz".toList

def isBareName (chars : List Char) : Bool := !chars.isEmpty && chars.all (letters.contains ·)

/-- Names of letters need no marks. -/
def SpellsName (text : String) (chars : List Char) : Prop :=
  SpellsString text chars ∨ isBareName chars = true ∧ text = String.ofList chars

def script : Script where
  gap := IsGap
  ending := IsEnding
  word := Script.wordOf SpellsName SpellsString
  closingComma := true

theorem spellsString_of_raw {mark : Char} (quote : mark ∈ ['"', '\'']) {text : String}
    (raw : text.toList.all (fun c => c ∉ mark :: '\\' :: lineEnds) = true) :
    SpellsString text (mark :: (text.toList ++ [mark])) := by
  refine ⟨mark, quote, text.toList.map ([·]), ?_, ?_⟩
  · rw [List.forall₂_map_right_iff, List.forall₂_same]
    intro c inside
    have other := List.all_eq_true.1 raw c inside
    simp only [List.mem_cons, not_or, decide_eq_true_eq] at other
    exact .raw other.1 other.2.1 other.2.2
  · rw [← List.flatMap_def, List.flatMap_singleton']

theorem endsLine_iff (c : Char) : endsLine c = true ↔ c ∈ lineEnds := by
  simp [endsLine, lineEnds, or_assoc]

theorem isBlank_of_mem {c : Char} (listed : c ∈ blanks) : isBlank c = true := by
  have all : blanks.all isBlank = true := by decide
  exact List.all_eq_true.1 all c listed

theorem skipGap_visible {c : Char} (visible : isBlank c = false) (noSlash : c ≠ '/')
    (rest : List Char) : skipGap .open (c :: rest) = some (c :: rest) := by
  rw [skipGap_of_ne_slash noSlash, visible]
  rfl

theorem skipGap_line {comment : List Char} (inside : ∀ c ∈ comment, c ∉ lineEnds)
    (rest : List Char) : skipGap .line (comment ++ rest) = skipGap .line rest := by
  induction comment with
  | nil => rfl
  | cons c more ih =>
    have goesOn : endsLine c = false := by
      rw [Bool.eq_false_iff]
      exact mt (endsLine_iff c).1 (inside c (.head _))
    rw [List.cons_append, skipGap_line_cons, goesOn]
    exact ih fun c later => inside c (.tail _ later)

theorem skipGap_block {comment : List Char} (inside : ¬ ['*', '/'] <:+: comment)
    (rest : List Char) : skipGap .block (comment ++ '*' :: '/' :: rest) = skipGap .open rest := by
  induction comment with
  | nil => rfl
  | cons c more ih =>
    have later : ¬ ['*', '/'] <:+: more := fun found =>
      inside (List.infix_cons_iff.2 (.inr found))
    -- the star that closes the comment is not the slash behind a star in it
    have goesOn : ∀ tail, c = '*' → more ++ '*' :: '/' :: rest = '/' :: tail → False := by
      rintro tail rfl slash
      cases more with
      | nil => simp at slash
      | cons next others =>
        obtain ⟨rfl, _⟩ := List.cons.inj slash
        exact inside ⟨[], others, rfl⟩
    rw [List.cons_append, skipGap_block_cons goesOn]
    exact ih later

theorem skipGap_gap {gap : List Char} (isGap : IsGap gap) (rest : List Char) :
    skipGap .open (gap ++ rest) = skipGap .open rest := by
  induction isGap with
  | nil => rfl
  | @blank c more listed _ ih =>
    have noSlash : c ≠ '/' := by
      rintro rfl
      revert listed
      decide
    rw [List.cons_append, skipGap_of_ne_slash noSlash, if_pos (isBlank_of_mem listed)]
    exact ih
  | @line comment c more inside ends _ ih =>
    have closed : skipGap .line (c :: (more ++ rest)) = skipGap .open (more ++ rest) := by
      rw [skipGap_line_cons, if_pos ((endsLine_iff c).2 ends)]
    have skipped := skipGap_line inside (c :: (more ++ rest))
    rw [← ih, ← closed, ← skipped]
    simp
  | @block comment more inside _ ih =>
    have skipped := skipGap_block inside (more ++ rest)
    rw [← ih, ← skipped]
    simp

theorem skipGap_ending {ending : List Char} (isEnding : IsEnding ending) :
    skipGap .open ending = some [] := by
  cases isEnding with
  | gap isGap =>
    have skipped := skipGap_gap isGap []
    rw [List.append_nil] at skipped
    exact skipped
  | line isGap inside =>
    have skipped := skipGap_line inside []
    rw [List.append_nil] at skipped
    rw [skipGap_gap isGap, skipGap_slashes, skipped]
    rfl

theorem readPieces_raw {mark c : Char} (noMark : c ≠ mark) (noBackslash : c ≠ '\\')
    (inLine : c ∉ lineEnds) (done : List Piece) (rest : List Char) :
    readPieces mark done (c :: rest) = readPieces mark (.char c [c] :: done) rest := by
  have goesOn : endsLine c = false := by
    rw [Bool.eq_false_iff]
    exact mt (endsLine_iff c).1 inLine
  have plain : (c = '\\' || endsLine c) = false := by simp [noBackslash, goesOn]
  rw [readPieces, if_neg noMark, plain]
  · rfl
  -- the other rules begin with a backslash
  all_goals
    intros
    contradiction

theorem readPieces_code {digits : List Char} (four : digits.length = 4) {code : Nat}
    (writes : WritesHexadecimal code digits) (mark : Char) (done : List Piece) (rest : List Char) :
    readPieces mark done ('\\' :: 'u' :: digits ++ rest) =
      readPieces mark (.code code digits :: done) rest := by
  match digits with
  | [a, b, c, d] =>
    have number := hexNumber?_of_writes writes
    simp [readPieces, number]

theorem SpellsChar.inPieces {mark c : Char} {chars : List Char}
    (spelled : SpellsChar mark c chars) :
    Script.InPieces (readPieces mark) joinPieces [c] chars := by
  cases spelled with
  | raw noMark noBackslash inLine =>
    exact ⟨[.char c [c]], readPieces_raw noMark noBackslash inLine, fun _ _ => rfl⟩
  | @named letter listed =>
    refine ⟨[.char c [letter]], fun done rest => ?_, fun _ _ => rfl⟩
    simp only [namedEscapes, List.mem_cons, Prod.mk.injEq, List.not_mem_nil, or_false] at listed
    rcases listed with ⟨rfl, rfl⟩ | ⟨rfl, rfl⟩ | ⟨rfl, rfl⟩ | ⟨rfl, rfl⟩ | ⟨rfl, rfl⟩ |
      ⟨rfl, rfl⟩ | ⟨rfl, rfl⟩ <;> simp [readPieces, escaped?, endsLine]
  | itself noDigit plain inLine =>
    have goesOn : endsLine c = false := by
      rw [Bool.eq_false_iff]
      exact mt (endsLine_iff c).1 inLine
    refine ⟨[.char c [c]], fun done rest => ?_, fun _ _ => rfl⟩
    simp only [List.mem_cons, List.not_mem_nil, or_false, not_or] at plain
    obtain ⟨_, _, _, _, _, _, noByte, noCode⟩ := plain
    have meant : escaped? c = some c := by
      unfold escaped?
      split <;> simp_all
    have noReturn : c ≠ '\r' := by
      rintro rfl
      exact inLine (by decide)
    simp [readPieces, noByte, noCode, noReturn, goesOn, meant]
  | @byte digits two writes =>
    match digits with
    | [a, b] =>
      refine ⟨[.char (Char.ofNat c.toNat) [a, b]], fun done rest => ?_, fun done more => ?_⟩
      · have number := hexNumber?_of_writes writes
        simp [readPieces, number]
      · rw [Char.ofNat_toNat]
        rfl
  | @code digits four writes =>
    refine ⟨[.code c.toNat digits], readPieces_code four writes mark, fun done more => ?_⟩
    obtain ⟨noLead, noTrail⟩ := not_surrogate c
    rw [List.singleton_append, joinPieces.eq_def]
    simp only [noTrail, noLead, Bool.false_eq_true, if_false, Char.ofNat_toNat]
    rfl

def ReadsAs (chars rest : List Char) (token : Token) : Prop :=
  ∃ c more, chars ++ rest = c :: more ∧ isBlank c = false ∧ c ≠ '/' ∧
    readToken? c more = some (token, rest)

theorem readTokens_gap {gap : List Char} (isGap : IsGap gap) (done : List Token)
    (rest : List Char) : readTokens done (gap ++ rest) = readTokens done rest := by
  have skipped := skipGap_gap isGap rest
  rw [readTokens, readTokens, skipped]

theorem ReadsAs.readTokens {chars rest : List Char} {token : Token}
    (reads : ReadsAs chars rest token) (done : List Token) :
    readTokens done (chars ++ rest) = readTokens (token :: done) rest := by
  obtain ⟨c, more, split, visible, noSlash, read⟩ := reads
  rw [split, Literal.readTokens, skipGap_visible visible noSlash]
  dsimp only
  rw [read]

theorem readToken?_word {c : Char} (noMark : c ∉ ['[', ']', '{', '}', ',', ':'])
    (rest : List Char) :
    readToken? c rest =
      if c = '"' ∨ c = '\'' then
        (readPieces c [] rest).map fun string => (.word ⟨c :: rest, .string string.1⟩, string.2)
      else if startsNumber c then
        (readNumber? (c :: rest)).map fun number => (.word ⟨c :: rest, .number number.1⟩, number.2)
      else (readName? (c :: rest)).map fun name => (.word ⟨c :: rest, .name name.1⟩, name.2) := by
  unfold readToken?
  split <;> simp_all

theorem readsAs_string {text : String} {chars : List Char} (spelled : SpellsString text chars)
    (rest : List Char) :
    ∃ source pieces, stringOfPieces pieces = .ok text ∧
      ReadsAs chars rest (.word ⟨source, .string pieces⟩) := by
  obtain ⟨mark, quote, spellings, each, rfl⟩ := spelled
  obtain ⟨pieces, reads, joins⟩ := Script.inPieces_of_spellings SpellsChar.inPieces each
  have joined := joins [] []
  rw [List.append_nil, List.append_nil] at joined
  have visible : ['"', '\''].all (fun c => !isBlank c && c ≠ '/' && c ≠ '\\' &&
      c ∉ ['[', ']', '{', '}', ',', ':']) = true := by decide
  have isQuote : mark = '"' ∨ mark = '\'' := by simpa using quote
  have facts := List.all_eq_true.1 visible mark quote
  simp only [Bool.and_eq_true, Bool.not_eq_true', decide_eq_true_eq] at facts
  obtain ⟨⟨⟨noBlank, noSlash⟩, noBackslash⟩, noMark⟩ := facts
  have ended : readPieces mark [] (spellings.flatten ++ [mark] ++ rest) = some (pieces, rest) := by
    rw [List.append_assoc, reads]
    simp [readPieces, noBackslash]
  refine ⟨mark :: (spellings.flatten ++ [mark] ++ rest), pieces, ?_, mark,
    spellings.flatten ++ [mark] ++ rest, rfl, noBlank, noSlash, ?_⟩
  · rw [stringOfPieces, joined, joinPieces, List.reverse_reverse]
    exact congrArg Except.ok String.ofList_toList
  · rw [readToken?_word noMark, if_pos isQuote, ended]
    rfl

def Named (name : String) (key : Key) : Prop := stringOfPieces key.pieces = .ok name

mutual

inductive Means : Json → Literal → Prop
  | null (source : List Char) : Means .null (.null source)
  | bool (source : List Char) (value : Bool) : Means (.bool value) (.bool source value)
  | number (source : List Char) (text : String) : Means (.number text) (.number source text.toList)
  | string (source : List Char) {pieces : List Piece} {text : String}
    (meaning : stringOfPieces pieces = .ok text) : Means (.string text) (.string source pieces)
  | list (source : List Char) {items : List Json} {values : List Literal}
    (each : List.Forall₂ Means items values) : Means (.array items) (.list source values)
  | record (source : List Char) {members : List (String × Json)} {pairs : List (Key × Literal)}
    (each : List.Forall₂ MeansMember members pairs) :
    Means (.object members) (.record source pairs)

inductive MeansMember : String × Json → Key × Literal → Prop
  | mk {name : String} {key : Key} {json : Json} {value : Literal} (named : Named name key)
    (means : Means json value) : MeansMember (name, json) (key, value)

end

def IsNumber (text : List Char) : Prop :=
  afterNumber? text = some [] ∧ (∀ c ∈ text.head?, c ∈ "+-.0123456789".toList) ∧
    ∀ c ∈ text, isNumeralChar c = true

def opensGap : List Char := '/' :: blanks

theorem IsGap.head {c : Char} {rest : List Char} (isGap : IsGap (c :: rest)) : c ∈ opensGap := by
  cases isGap with
  | blank listed _ => exact .tail _ listed
  | line | block => exact .head _

theorem IsEnding.head {text : List Char} (isEnding : IsEnding text) :
    ∀ c ∈ text.head?, c ∈ opensGap := by
  intro c first
  cases isEnding with
  | gap isGap =>
    obtain ⟨rest, rfl⟩ := List.head?_eq_some_iff.1 first
    exact isGap.head
  | @line gap _ isGap _ =>
    cases gap with
    | nil => cases first; exact .head _
    | cons => cases first; exact isGap.head

theorem begins_of_parts {c : Char} {rest : List Char}
    (begins : script.gap (c :: rest) ∨ script.ending (c :: rest)) : c ∈ opensGap :=
  begins.elim IsGap.head fun isEnding => isEnding.head c rfl

theorem readsAs_number {text : List Char} (number : IsNumber text) {rest : List Char}
    (parts : script.Parts rest) :
    ∃ source, ReadsAs text rest (.word ⟨source, .number text⟩) := by
  obtain ⟨valid, starts, all⟩ := number
  have outside : opensGap.all (!isNumeralChar ·) = true := by decide
  have gaps : ∀ c rest, script.gap (c :: rest) ∨ script.ending (c :: rest) →
      isNumeralChar c = false := by
    intro c rest begins
    simpa using List.all_eq_true.1 outside c (begins_of_parts begins)
  obtain ⟨taken, left⟩ := parts.span gaps (by decide) all
  have read : readNumber? (text ++ rest) = some (text, rest) := by
    rw [readNumber?, taken, left, if_pos valid]
  cases text with
  | nil => cases valid
  | cons c more =>
    have visible : "+-.0123456789".toList.all (fun c => !isBlank c && c ≠ '/' && startsNumber c &&
        c ∉ ['"', '\''] && c ∉ ['[', ']', '{', '}', ',', ':']) = true := by decide
    have facts := List.all_eq_true.1 visible c (starts c rfl)
    simp only [Bool.and_eq_true, Bool.not_eq_true', decide_eq_true_eq] at facts
    obtain ⟨⟨⟨⟨noBlank, noSlash⟩, start⟩, noQuote⟩, noMark⟩ := facts
    have noString : ¬ (c = '"' ∨ c = '\'') := by simpa using noQuote
    refine ⟨c :: (more ++ rest), c, more ++ rest, rfl, noBlank, noSlash, ?_⟩
    rw [readToken?_word noMark, if_neg noString, if_pos start, ← List.cons_append, read]
    rfl

def plainPieces (name : List Char) : List Piece := name.map fun c => .char c [c]

theorem readName_stop {rest : List Char} (parts : script.Parts rest) (done : List Piece) :
    readName done rest = (done.reverse, rest) := by
  let goesOn (c : Char) : Bool := isIdentifierPart c || c = '\\'
  have outside : opensGap.all (!goesOn ·) = true := by decide +kernel
  have gaps : ∀ c rest, script.gap (c :: rest) ∨ script.ending (c :: rest) → goesOn c = false := by
    intro c rest begins
    simpa using List.all_eq_true.1 outside c (begins_of_parts begins)
  have stop := parts.head gaps (by decide +kernel)
  cases rest with
  | nil => rfl
  | cons c more =>
    have facts := stop c rfl
    simp only [goesOn, Bool.or_eq_false_iff, decide_eq_false_iff_not] at facts
    obtain ⟨noPart, noBackslash⟩ := facts
    simp [readName, noPart, noBackslash]

theorem readName_letters {name : List Char} (all : ∀ c ∈ name, c ∈ letters) {rest : List Char}
    (parts : script.Parts rest) (done : List Piece) :
    readName done (name ++ rest) = (done.reverse ++ plainPieces name, rest) := by
  induction name generalizing done with
  | nil => simpa [plainPieces] using readName_stop parts done
  | cons c more ih =>
    have part : letters.all (fun c => isIdentifierPart c && c ≠ '\\') = true := by decide +kernel
    have facts := List.all_eq_true.1 part c (all c (.head _))
    simp only [Bool.and_eq_true, decide_eq_true_eq] at facts
    obtain ⟨goesOn, noBackslash⟩ := facts
    have later := ih (fun c inside => all c (.tail _ inside)) (.char c [c] :: done)
    rw [List.cons_append]
    simp [readName, goesOn, noBackslash, later, plainPieces]

theorem readsAs_name {name : List Char} (bare : isBareName name = true)
    {rest : List Char} (parts : script.Parts rest) :
    ∃ source, ReadsAs name rest (.word ⟨source, .name (plainPieces name)⟩) := by
  cases name with
  | nil => cases bare
  | cons c more =>
    have all : ∀ d ∈ c :: more, d ∈ letters := by simpa [isBareName] using bare
    have visible : letters.all (fun c => !isBlank c && c ≠ '/' && isIdentifierStart c &&
        !startsNumber c && c ∉ ['"', '\'', '\\'] && c ∉ ['[', ']', '{', '}', ',', ':']) = true := by
      decide +kernel
    have facts := List.all_eq_true.1 visible c (all c (.head _))
    simp only [Bool.and_eq_true, Bool.not_eq_true', decide_eq_true_eq] at facts
    obtain ⟨⟨⟨⟨⟨noBlank, noSlash⟩, start⟩, noNumber⟩, noQuote⟩, noMark⟩ := facts
    have noString : ¬ (c = '"' ∨ c = '\'') := by
      rintro (rfl | rfl) <;> exact noQuote (by decide)
    have noBackslash : c ≠ '\\' := by
      rintro rfl
      exact noQuote (by decide)
    have name := readName_letters (fun c inside => all c (.tail _ inside)) parts [.char c [c]]
    have read : readName? (c :: (more ++ rest)) =
        some (plainPieces (c :: more), rest) := by
      simp [readName?, noBackslash, start, name, plainPieces]
    refine ⟨c :: (more ++ rest), c, more ++ rest, rfl, noBlank, noSlash, ?_⟩
    rw [readToken?_word noMark, if_neg noString, noNumber, if_neg Bool.false_ne_true, read]
    rfl

theorem readsAs_literal {name : String} (listed : name ∈ ["null", "true", "false"])
    {rest : List Char} (parts : script.Parts rest) :
    ∃ source, ReadsAs name.toList rest (.word ⟨source, .name (plainPieces name.toList)⟩) := by
  have bare : ∀ name ∈ ["null", "true", "false"], isBareName name.toList = true := by
    decide +kernel
  exact readsAs_name (bare name listed) parts

theorem stringOfPieces_plain (name : List Char) :
    stringOfPieces (plainPieces name) = .ok (String.ofList name) := by
  have joins : ∀ done, joinPieces done (plainPieces name) = .ok (done.reverse ++ name) := by
    induction name with
    | nil => intro done; simp [plainPieces, joinPieces]
    | cons c rest ih =>
      intro done
      have next := ih (c :: done)
      rw [List.reverse_cons, List.append_assoc] at next
      exact next
  rw [stringOfPieces, joins]
  rfl

def Readable : Json.Word → Prop
  | .atom (.number text) => IsNumber text.toList
  | _ => True

def Stands : Json.Word → Word → Prop
  | .name text, word =>
    ∃ pieces, (word.form = .string pieces ∨ word.form = .name pieces) ∧
      stringOfPieces pieces = .ok text
  | .atom (.string text), word =>
    ∃ pieces, word.form = .string pieces ∧ stringOfPieces pieces = .ok text
  | .atom .null, word => word.form = .name (plainPieces "null".toList)
  | .atom (.bool true), word => word.form = .name (plainPieces "true".toList)
  | .atom (.bool false), word => word.form = .name (plainPieces "false".toList)
  | .atom (.number text), word => word.form = .number text.toList
  | .atom (.array _), _ | .atom (.object _), _ => False

theorem readsAs_word {word : Json.Word} {chars : List Char} (spelled : script.word word chars)
    (readable : Readable word) {rest : List Char} (parts : script.Parts rest) :
    ∃ found, Stands word found ∧ ReadsAs chars rest (.word found) := by
  cases word with
  | name text =>
    rcases spelled with string | ⟨bare, rfl⟩
    · obtain ⟨source, pieces, meaning, reads⟩ := readsAs_string string rest
      exact ⟨_, ⟨pieces, .inl rfl, meaning⟩, reads⟩
    · obtain ⟨source, reads⟩ := readsAs_name bare parts
      exact ⟨_, ⟨_, .inr rfl, stringOfPieces_plain chars⟩, reads⟩
  | atom atom =>
    cases atom with
    | string text =>
      obtain ⟨source, pieces, meaning, reads⟩ := readsAs_string spelled rest
      exact ⟨_, ⟨pieces, rfl, meaning⟩, reads⟩
    | null =>
      cases spelled
      obtain ⟨source, reads⟩ := @readsAs_literal "null" (by decide) rest parts
      exact ⟨⟨source, .name (plainPieces "null".toList)⟩, rfl, reads⟩
    | bool value =>
      cases value with
      | true =>
        cases spelled
        obtain ⟨source, reads⟩ := @readsAs_literal "true" (by decide) rest parts
        exact ⟨⟨source, .name (plainPieces "true".toList)⟩, rfl, reads⟩
      | false =>
        cases spelled
        obtain ⟨source, reads⟩ := @readsAs_literal "false" (by decide) rest parts
        exact ⟨⟨source, .name (plainPieces "false".toList)⟩, rfl, reads⟩
    | number text =>
      cases spelled
      obtain ⟨source, reads⟩ := readsAs_number readable parts
      exact ⟨⟨source, .number text.toList⟩, rfl, reads⟩
    | array | object => cases spelled

theorem readsAs_token {token : Outline.Token Unit Json.Word} {chars rest : List Char}
    (spelled : script.spells token chars)
    (known : ∀ word, token = .word word → Readable word ∧ script.Parts rest) :
    ∃ found, Token.Alike Stands token found ∧ ReadsAs chars rest found := by
  cases token with
  | word word =>
    obtain ⟨readable, parts⟩ := known word rfl
    obtain ⟨value, stands, reads⟩ := readsAs_word spelled readable parts
    exact ⟨.word value, .word stands, reads⟩
  | openList mark =>
    cases spelled
    exact ⟨.openList _, .openList mark _, '[', rest, rfl, rfl, by decide, rfl⟩
  | closeList => cases spelled; exact ⟨.closeList, .closeList, ']', rest, rfl, rfl, by decide, rfl⟩
  | openRecord mark =>
    cases spelled
    exact ⟨.openRecord _, .openRecord mark _, '{', rest, rfl, rfl, by decide, rfl⟩
  | closeRecord =>
    cases spelled
    exact ⟨.closeRecord, .closeRecord, '}', rest, rfl, rfl, by decide, rfl⟩
  | comma => cases spelled; exact ⟨.comma, .comma, ',', rest, rfl, rfl, by decide, rfl⟩
  | colon => cases spelled; exact ⟨.colon, .colon, ':', rest, rfl, rfl, by decide, rfl⟩

theorem script_readBy : script.ReadBy readTokens Readable Stands where
  finish done ending isEnding := by
    rw [readTokens, skipGap_ending isEnding]
  next done rest gap token chars isGap spelled known := by
    obtain ⟨found, alike, reads⟩ := readsAs_token spelled known
    exact ⟨found, alike, (readTokens_gap isGap done _).trans (reads.readTokens done)⟩

theorem named?_plain (source : List Char) :
    named? source (plainPieces "null".toList) = some (.null source) ∧
      named? source (plainPieces "true".toList) = some (.bool source true) ∧
      named? source (plainPieces "false".toList) = some (.bool source false) :=
  ⟨rfl, rfl, rfl⟩

theorem format_takes : format.Takes Stands Named Means where
  key := by
    rintro name ⟨source, form⟩ ⟨pieces, rfl | rfl, meaning⟩
    · exact ⟨⟨source, pieces⟩, rfl, meaning⟩
    · exact ⟨⟨source, pieces⟩, rfl, meaning⟩
  value := by
    rintro json ⟨source, form⟩ stands
    cases json with
    | null =>
      cases stands
      exact ⟨.null source, (named?_plain source).1, .null source⟩
    | bool value =>
      cases value with
      | true =>
        cases stands
        exact ⟨.bool source true, (named?_plain source).2.1, .bool source true⟩
      | false =>
        cases stands
        exact ⟨.bool source false, (named?_plain source).2.2, .bool source false⟩
    | number text =>
      cases stands
      exact ⟨.number source text.toList, rfl, .number source text⟩
    | string text =>
      obtain ⟨pieces, rfl, meaning⟩ := stands
      exact ⟨.string source pieces, rfl, .string source meaning⟩
    | array | object => cases stands
  list source each := .list source each
  record source each := .record source (each.imp fun _ _ both => .mk both.1 both.2)

/-- Every layout of a document is read as a literal that means the document. -/
theorem read?_of_writes {layout : Layout} {json : Json} (writes : layout.Writes script json)
    (readable : json.AllWords Readable) :
    ∃ literal, read? layout.chars = some literal ∧ Means json literal :=
  writes.read script_readBy format_takes (fun _ => rfl) readable nofun

end CloudAudit.Literal
