import CloudAudit.Proofs.Json.Verbatim
import CloudAudit.Proofs.Literal.Numeral

/-! JSON texts read as literals. What is read copies what is written, unless a string holds one of
the two line separators that may not stand in the strings of a literal; then nothing is read. -/
namespace CloudAudit.Literal

open Outline Text

inductive SamePiece : Json.Piece → Piece → Prop
  | char (c letter : Char) : SamePiece (.char c) (.char c [letter])
  | code {code : Nat} {digits : List Char} (number : hexNumber? digits = some code) :
    SamePiece (.code code) (.code code digits)

theorem samePiece_code {code : Nat} {rest : List Json.Piece} {others : List Piece}
    (same : List.Forall₂ SamePiece (.code code :: rest) others) :
    ∃ digits more, others = .code code digits :: more ∧ hexNumber? digits = some code ∧
      List.Forall₂ SamePiece rest more := by
  obtain ⟨piece, more, head, tail, rfl⟩ := List.forall₂_cons_left_iff.1 same
  cases head with
  | code number => exact ⟨_, more, rfl, number, tail⟩

def separators : List Char := ['\u2028', '\u2029']

theorem readPieces_of_spells {piece : Json.Piece} {chars : List Char}
    (spelled : Json.SpellsPiece piece chars) (onLine : ∀ c ∈ chars, c ∉ separators) :
    ∃ found, SamePiece piece found ∧
      ∀ done rest, readPieces '"' done (chars ++ rest) = readPieces '"' (found :: done) rest := by
  cases spelled with
  | @raw c printable noMark noBackslash =>
    have inLine : c ∉ lineEnds := by
      have noSeparator := onLine c (.head _)
      simp only [separators, List.mem_cons, List.not_mem_nil, or_false, not_or] at noSeparator
      simp only [lineEnds, List.mem_cons, List.not_mem_nil, or_false, not_or]
      refine ⟨?_, ?_, noSeparator⟩
      all_goals
        rintro rfl
        exact absurd printable (by decide)
    exact ⟨_, .char c c, readPieces_raw noMark noBackslash inLine⟩
  | @named letter c listed =>
    refine ⟨_, .char c letter, fun done rest => ?_⟩
    simp only [Json.namedEscapes, List.mem_cons, Prod.mk.injEq, List.not_mem_nil, or_false]
      at listed
    rcases listed with ⟨rfl, rfl⟩ | ⟨rfl, rfl⟩ | ⟨rfl, rfl⟩ | ⟨rfl, rfl⟩ | ⟨rfl, rfl⟩ |
      ⟨rfl, rfl⟩ | ⟨rfl, rfl⟩ | ⟨rfl, rfl⟩ <;> simp [readPieces, escaped?, endsLine]
  | code four writes =>
    exact ⟨_, .code (hexNumber?_of_writes writes), readPieces_code four writes '"'⟩

/-- Only raw characters are separators. -/
theorem readPieces_off_line {piece : Json.Piece} {chars : List Char}
    (spelled : Json.SpellsPiece piece chars) {c : Char} (inside : c ∈ chars)
    (separates : c ∈ separators) (done : List Piece) (rest : List Char) :
    readPieces '"' done (chars ++ rest) = none := by
  cases spelled with
  | raw printable noMark noBackslash =>
    cases List.mem_singleton.1 inside
    simp only [separators, List.mem_cons, List.not_mem_nil, or_false] at separates
    rcases separates with rfl | rfl <;> simp [readPieces, endsLine]
  | @named letter _ listed =>
    have plain : ∀ escape ∈ Json.namedEscapes, '\\' ∉ separators ∧ escape.1 ∉ separators := by
      decide
    obtain ⟨noBackslash, noLetter⟩ := plain _ listed
    simp only [List.mem_cons, List.not_mem_nil, or_false] at inside
    rcases inside with rfl | rfl
    · exact absurd separates noBackslash
    · exact absurd separates noLetter
  | @code _ digits four writes =>
    have plain : (separators.all fun c => c ∉ ['\\', 'u'] && !isHexDigit c) = true := by decide
    have noPart := List.all_eq_true.1 plain c separates
    simp only [List.mem_cons, List.not_mem_nil, or_false, not_or, Bool.and_eq_true,
      decide_eq_true_eq, Bool.not_eq_true'] at inside noPart
    have digit : c ∈ digits := (inside.resolve_left noPart.1.1).resolve_left noPart.1.2
    exact absurd (isHexDigit_of_writes writes c digit) (Bool.eq_false_iff.1 noPart.2)

theorem readPieces_inner {pieces : List Json.Piece} {spellings : List (List Char)}
    (spelled : List.Forall₂ Json.SpellsPiece pieces spellings)
    (onLine : ∀ c ∈ spellings.flatten, c ∉ separators) :
    ∃ found, List.Forall₂ SamePiece pieces found ∧ ∀ done rest,
      readPieces '"' done (spellings.flatten ++ '"' :: rest) =
        some (done.reverse ++ found, rest) := by
  induction spelled with
  | nil => exact ⟨[], .nil, fun done rest => by simp [readPieces]⟩
  | cons head _ ih =>
    rw [List.flatten_cons, List.forall_mem_append] at onLine
    obtain ⟨piece, same, first⟩ := readPieces_of_spells head onLine.1
    obtain ⟨more, others, later⟩ := ih onLine.2
    refine ⟨piece :: more, .cons same others, fun done rest => ?_⟩
    rw [List.flatten_cons, List.append_assoc, first, later]
    simp

theorem readPieces_none {pieces : List Json.Piece} {spellings : List (List Char)}
    (spelled : List.Forall₂ Json.SpellsPiece pieces spellings) {c : Char}
    (inside : c ∈ spellings.flatten) (separates : c ∈ separators) (done : List Piece)
    (rest : List Char) : readPieces '"' done (spellings.flatten ++ rest) = none := by
  induction spelled generalizing done with
  | nil => cases inside
  | @cons piece chars _ _ head _ ih =>
    rw [List.flatten_cons, List.append_assoc]
    by_cases here : ∃ d ∈ chars, d ∈ separators
    · obtain ⟨d, within, separator⟩ := here
      exact readPieces_off_line head within separator done _
    · simp only [not_exists, not_and] at here
      obtain ⟨found, _, first⟩ := readPieces_of_spells head here
      rw [first]
      refine ih ?_ _
      rw [List.flatten_cons, List.mem_append] at inside
      exact inside.resolve_left fun within => here c within separates

def piecesOf (inner : List Char) : List Piece :=
  ((readPieces '"' [] (inner ++ ['"'])).map Prod.fst).getD []

theorem piecesOf_spec {inner : List Char} (isInner : Json.IsInner inner)
    (onLine : ∀ c ∈ inner, c ∉ separators) :
    ∃ pieces spellings, List.Forall₂ Json.SpellsPiece pieces spellings ∧
      inner = spellings.flatten ∧ List.Forall₂ SamePiece pieces (piecesOf inner) ∧
      ∀ rest, readPieces '"' [] (inner ++ '"' :: rest) = some (piecesOf inner, rest) := by
  obtain ⟨pieces, spellings, spelled, rfl⟩ := isInner
  obtain ⟨found, same, reads⟩ := readPieces_inner spelled onLine
  have found_eq : piecesOf spellings.flatten = found := by
    rw [piecesOf, reads]
    rfl
  exact ⟨pieces, spellings, spelled, rfl, found_eq ▸ same, fun rest => found_eq ▸ reads [] rest⟩

/-- The readers differ in the characters that they make of pairs, all of them behind the first
65536. -/
def SameChar (c d : Char) : Prop := c = d ∨ 0x10000 ≤ c.toNat ∧ 0x10000 ≤ d.toNat

theorem pairedChar_large {lead trail : Nat} (isLead : isLeadSurrogate lead = true)
    (isTrail : isTrailSurrogate trail = true) : 0x10000 ≤ (pairedChar lead trail).toNat := by
  simp only [isLeadSurrogate, isTrailSurrogate, Bool.and_eq_true, decide_eq_true_eq]
    at isLead isTrail
  have high : (lead - 0xD800) <<< 10 < 2 ^ 20 := by
    rw [Nat.shiftLeft_eq]
    omega
  have low : trail - 0xDC00 + 0x10000 < 2 ^ 20 := by omega
  have both := Nat.or_lt_two_pow high low
  have least : trail - 0xDC00 + 0x10000 ≤ (lead - 0xD800) <<< 10 ||| (trail - 0xDC00 + 0x10000) :=
    Nat.right_le_or
  rw [pairedChar, toNat_ofNat (by simp only [Nat.isValidChar]; omega)]
  omega

theorem joinedPair_large {lead trail : Nat} (isLead : isLeadSurrogate lead = true)
    (isTrail : isTrailSurrogate trail = true) :
    0x10000 ≤ (Char.ofNat (0x10000 + (lead - 0xD800) * 0x400 + (trail - 0xDC00))).toNat := by
  simp only [isLeadSurrogate, isTrailSurrogate, Bool.and_eq_true, decide_eq_true_eq]
    at isLead isTrail
  rw [toNat_ofNat (by simp only [Nat.isValidChar]; omega)]
  omega

/-- A letter alone is never read as the second half of a pair. -/
theorem hexNumber?_letter (letter : Char) :
    ∀ trail ∈ hexNumber? [letter], isTrailSurrogate trail = false := by
  intro trail number
  have small := (hexNumber?_eq_some_iff.1 number).lt Nat.one_pos
  simp only [List.length_singleton, Nat.pow_one] at small
  simp only [isTrailSurrogate, Bool.and_eq_false_iff, decide_eq_false_iff_not]
  omega

theorem joinPieces_single {code : Nat} (noLead : isLeadSurrogate code = false)
    (noTrail : isTrailSurrogate code = false) (done : List Char) (digits : List Char)
    (rest : List Piece) :
    joinPieces done (.code code digits :: rest) = joinPieces (Char.ofNat code :: done) rest := by
  rw [joinPieces.eq_def]
  simp only [noLead, noTrail, Bool.false_eq_true, if_false]

theorem joinPieces_trail {code : Nat} (isTrail : isTrailSurrogate code = true) (done : List Char)
    (digits : List Char) (rest : List Piece) :
    joinPieces done (.code code digits :: rest) = .error .unexpectedTrail := by
  rw [joinPieces.eq_def]
  simp only [isTrail, if_true]

theorem not_trail_of_lead {code : Nat} (isLead : isLeadSurrogate code = true) :
    isTrailSurrogate code = false := by
  simp only [isLeadSurrogate, Bool.and_eq_true, decide_eq_true_eq] at isLead
  simp only [isTrailSurrogate, Bool.and_eq_false_iff, decide_eq_false_iff_not]
  omega

theorem joinPieces_paired {lead trail : Nat} (isLead : isLeadSurrogate lead = true)
    {digits letters : List Char} (number : hexNumber? letters = some trail)
    (isTrail : isTrailSurrogate trail = true) (done : List Char) (rest : List Piece) :
    joinPieces done (.code lead digits :: .code trail letters :: rest) =
      joinPieces (pairedChar lead trail :: done) rest := by
  rw [joinPieces.eq_def]
  simp only [isLead, not_trail_of_lead isLead, Piece.spelling, number, isTrail, Bool.false_eq_true,
    if_false, if_true]

theorem joinPieces_unpaired {code : Nat} (isLead : isLeadSurrogate code = true)
    {rest : List Piece}
    (alone : ∀ next ∈ rest.head?, ∀ trail ∈ hexNumber? next.spelling,
      isTrailSurrogate trail = false) (done : List Char) (digits : List Char) :
    (joinPieces done (.code code digits :: rest)).toOption = none := by
  rw [joinPieces.eq_def]
  simp only [isLead, not_trail_of_lead isLead, Bool.false_eq_true, if_false, if_true]
  cases rest with
  | nil => rfl
  | cons next more =>
    have noTrail := alone next rfl
    cases number : hexNumber? next.spelling with
    | none =>
      simp only [number]
      rfl
    | some trail =>
      simp only [number, noTrail trail number]
      rfl

/-- Both readers join the same pieces, to nearly the same texts. -/
theorem joinPieces_same {pieces : List Json.Piece} {others : List Piece}
    (same : List.Forall₂ SamePiece pieces others) {done doneOther : List Char}
    (before : List.Forall₂ SameChar done doneOther) :
    Option.Rel (List.Forall₂ SameChar) (Json.joinPieces done pieces)
      (joinPieces doneOther others).toOption := by
  fun_induction Json.joinPieces done pieces generalizing doneOther others with
  | case1 done =>
    cases same
    exact .some (List.forall₂_reverse_iff.2 before)
  | case2 done c rest ih =>
    obtain ⟨_, more, ⟨⟩, tail, rfl⟩ := List.forall₂_cons_left_iff.1 same
    exact ih tail (.cons (.inl rfl) before)
  | case3 done lead trail rest isLead isTrail ih =>
    obtain ⟨_, _, rfl, _, behind⟩ := samePiece_code same
    obtain ⟨_, more, rfl, number, tail⟩ := samePiece_code behind
    rw [joinPieces_paired isLead number isTrail]
    exact ih tail
      (.cons (.inr ⟨joinedPair_large isLead isTrail, pairedChar_large isLead isTrail⟩) before)
  | case4 done lead trail rest isLead noTrail =>
    obtain ⟨_, _, rfl, _, behind⟩ := samePiece_code same
    obtain ⟨_, more, rfl, number, _⟩ := samePiece_code behind
    rw [joinPieces_unpaired isLead]
    · exact .none
    · rintro next ⟨⟩ other same
      rw [Piece.spelling, number] at same
      cases same
      exact Bool.eq_false_iff.2 noTrail
  | case5 done lead trail rest noLead isTrail =>
    obtain ⟨_, _, rfl, _, _⟩ := samePiece_code same
    rw [joinPieces_trail isTrail]
    exact .none
  | case6 done lead trail rest noLead noTrail ih =>
    obtain ⟨_, _, rfl, _, behind⟩ := samePiece_code same
    rw [joinPieces_single (Bool.eq_false_iff.2 noLead) (Bool.eq_false_iff.2 noTrail)]
    exact ih behind (.cons (.inl rfl) before)
  | case7 done code rest noCode surrogate =>
    obtain ⟨_, _, rfl, _, behind⟩ := samePiece_code same
    rcases Bool.or_eq_true_iff.1 surrogate with isLead | isTrail
    · rw [joinPieces_unpaired isLead]
      · exact .none
      · cases behind with
        | nil => rintro next ⟨⟩
        | cons head _ =>
          cases head with
          | code => exact absurd rfl (noCode _ _)
          | char c letter =>
            rintro next ⟨⟩
            exact hexNumber?_letter letter
    · rw [joinPieces_trail isTrail]
      exact .none
  | case8 done code rest noCode noSurrogate ih =>
    obtain ⟨_, _, rfl, _, behind⟩ := samePiece_code same
    obtain ⟨noLead, noTrail⟩ := not_or.1 (mt Bool.or_eq_true_iff.2 noSurrogate)
    rw [joinPieces_single (Bool.eq_false_iff.2 noLead) (Bool.eq_false_iff.2 noTrail)]
    exact ih behind (.cons (.inl rfl) before)

def Basic (text : String) : Prop := ∀ c ∈ text.toList, c.toNat < 0x10000

instance : DecidablePred Basic :=
  fun text => List.decidableBAll (fun c : Char => c.toNat < 0x10000) text.toList

theorem eq_of_sameChar {text other : List Char} (same : List.Forall₂ SameChar text other)
    (basic : (∀ c ∈ text, c.toNat < 0x10000) ∨ ∀ c ∈ other, c.toNat < 0x10000) :
    text = other := by
  rw [← List.forall₂_eq_eq_eq]
  induction same with
  | nil => exact .nil
  | cons head _ ih =>
    simp only [List.forall_mem_cons] at basic
    refine .cons (head.resolve_right fun large => ?_) (ih (basic.imp And.right And.right))
    omega

section

variable {inner : String} (isInner : Json.IsInner inner.toList)
  (onLine : ∀ c ∈ inner.toList, c ∉ separators)

include isInner onLine

theorem says_of_meaning {text : String}
    (meaning : stringOfPieces (piecesOf inner.toList) = .ok text) :
    ∃ strict, Json.Says inner strict ∧ List.Forall₂ SameChar strict.toList text.toList := by
  obtain ⟨pieces, spellings, spelled, split, same, _⟩ := piecesOf_spec isInner onLine
  have joined := joinPieces_same same .nil
  rw [stringOfPieces] at meaning
  cases loose : joinPieces [] (piecesOf inner.toList) with
  | error fault =>
    rw [loose] at meaning
    cases meaning
  | ok other =>
    rw [loose] at joined meaning
    cases meaning
    cases strict : Json.joinPieces [] pieces with
    | none =>
      rw [strict] at joined
      cases joined
    | some chars =>
      rw [strict] at joined
      cases joined with
      | some both =>
        refine ⟨String.ofList chars, (Json.says_iff spelled split _).2 ?_, ?_⟩
        · rw [strict, String.toList_ofList]
        · rwa [String.toList_ofList, String.toList_ofList]

theorem meaning_of_says {strict : String} (told : Json.Says inner strict) :
    ∃ text, stringOfPieces (piecesOf inner.toList) = .ok text ∧
      List.Forall₂ SameChar strict.toList text.toList := by
  obtain ⟨pieces, spellings, spelled, split, same, _⟩ := piecesOf_spec isInner onLine
  have joined := joinPieces_same same .nil
  rw [(Json.says_iff spelled split strict).1 told] at joined
  cases loose : joinPieces [] (piecesOf inner.toList) with
  | error fault =>
    rw [loose] at joined
    cases joined
  | ok other =>
    rw [loose] at joined
    cases joined with
    | some both =>
      refine ⟨String.ofList other, ?_, ?_⟩
      · rw [stringOfPieces, loose]
        rfl
      · rwa [String.toList_ofList]

/-- A string has a meaning in a literal if it has one in JSON. -/
theorem stringOfPieces_isOk_iff :
    (∃ text, stringOfPieces (piecesOf inner.toList) = .ok text) ↔ ∃ text, Json.Says inner text := by
  constructor
  · rintro ⟨text, meaning⟩
    obtain ⟨strict, told, _⟩ := says_of_meaning isInner onLine meaning
    exact ⟨strict, told⟩
  · rintro ⟨strict, told⟩
    obtain ⟨text, meaning, _⟩ := meaning_of_says isInner onLine told
    exact ⟨text, meaning⟩

/-- It has the same one, if that is basic. -/
theorem stringOfPieces_eq_ok_iff {text : String} (basic : Basic text) :
    stringOfPieces (piecesOf inner.toList) = .ok text ↔ Json.Says inner text := by
  constructor
  · intro meaning
    obtain ⟨strict, told, same⟩ := says_of_meaning isInner onLine meaning
    exact String.toList_inj.1 (eq_of_sameChar same (.inr basic)) ▸ told
  · intro told
    obtain ⟨other, meaning, same⟩ := meaning_of_says isInner onLine told
    exact String.toList_inj.1 (eq_of_sameChar same (.inl basic)) ▸ meaning

theorem readsAs_inner (rest : List Char) :
    ∃ source, ReadsAs (Json.marked inner) rest
      (.word ⟨source, .string (piecesOf inner.toList)⟩) := by
  obtain ⟨_, _, _, _, _, reads⟩ := piecesOf_spec isInner onLine
  refine ⟨'"' :: (inner.toList ++ ['"'] ++ rest), '"', inner.toList ++ ['"'] ++ rest, rfl, rfl,
    by decide, ?_⟩
  rw [readToken?_word (by decide), if_pos (.inl rfl), List.append_assoc, List.singleton_append,
    reads]
  rfl

end

theorem isGap_of_json {gap : List Char} (blank : Json.script.gap gap) : IsGap gap := by
  have listed : [' ', '\t', '\n', '\r'].all (· ∈ blanks) = true := by decide
  exact isGap_of_blanks fun c inside =>
    of_decide_eq_true (List.all_eq_true.1 listed c (blank c inside))

theorem parts_of_json {text : List Char} (parts : Json.verbatim.Parts text) :
    script.Parts text := by
  rcases parts with ended | ⟨gap, blank, marks⟩
  · exact .inl (.gap (isGap_of_json ended))
  · exact .inr ⟨gap, isGap_of_json blank, marks⟩

def ReadableInJson (word : Json.Word) : Prop :=
  Json.Grammatical word ∧ ∀ text ∈ word.text?, Json.OnLine text

def Copies : Json.Word → Word → Prop
  | .name inner, word => word.form = .string (piecesOf inner.toList)
  | .atom (.string inner), word => word.form = .string (piecesOf inner.toList)
  | word, found => Stands word found

theorem readsAs_written {word : Json.Word} {chars : List Char}
    (spelled : Json.verbatim.word word chars) (readable : ReadableInJson word) {rest : List Char}
    (parts : Json.verbatim.Parts rest) :
    ∃ found, Copies word found ∧ ReadsAs chars rest (.word found) := by
  obtain ⟨grammatical, onLine⟩ := readable
  cases word with
  | name inner =>
    obtain ⟨isInner, rfl⟩ := spelled
    obtain ⟨source, reads⟩ := readsAs_inner isInner (onLine inner rfl) rest
    exact ⟨⟨source, .string (piecesOf inner.toList)⟩, rfl, reads⟩
  | atom atom =>
    cases atom with
    | string inner =>
      obtain ⟨isInner, rfl⟩ := spelled
      obtain ⟨source, reads⟩ := readsAs_inner isInner (onLine inner rfl) rest
      exact ⟨⟨source, .string (piecesOf inner.toList)⟩, rfl, reads⟩
    | number text =>
      obtain ⟨numeral, writes⟩ := grammatical
      have plain : script.word (.atom (.number text)) chars := spelled
      exact readsAs_word plain (isNumber_of_writes writes) (parts_of_json parts)
    | null =>
      have plain : script.word (.atom .null) chars := spelled
      exact readsAs_word plain trivial (parts_of_json parts)
    | bool value =>
      have plain : script.word (.atom (.bool value)) chars := by cases value <;> exact spelled
      obtain ⟨found, stands, reads⟩ := readsAs_word plain trivial (parts_of_json parts)
      exact ⟨found, by cases value <;> exact stands, reads⟩
    | array | object => cases spelled

theorem readsAs_mark {token : Outline.Token Unit Json.Word} {chars : List Char}
    (spelled : Json.verbatim.spells token chars) (noWord : token.isWord = false)
    (R : Json.Word → Word → Prop) (rest : List Char) :
    ∃ found, Token.Alike R token found ∧ ReadsAs chars rest found := by
  have same : script.spells token chars := by
    cases token with
    | word => cases noWord
    | openList | closeList | openRecord | closeRecord | comma | colon => exact spelled
  have known : ∀ word, token = .word word → Readable word ∧ script.Parts rest := by
    rintro word rfl
    cases noWord
  obtain ⟨found, alike, reads⟩ := readsAs_token same known
  refine ⟨found, ?_, reads⟩
  cases alike with
  | word => cases noWord
  | openList mark other => exact .openList mark other
  | openRecord mark other => exact .openRecord mark other
  | closeList => exact .closeList
  | closeRecord => exact .closeRecord
  | comma => exact .comma
  | colon => exact .colon

theorem verbatim_readBy : Json.verbatim.ReadBy readTokens ReadableInJson Copies where
  finish done ending blank := by
    rw [readTokens, skipGap_ending (.gap (isGap_of_json blank))]
  next done rest gap token chars blank spelled known := by
    have behind (found : Token) (reads : ReadsAs chars rest found) :
        readTokens done (gap ++ (chars ++ rest)) = readTokens (found :: done) rest :=
      (readTokens_gap (isGap_of_json blank) done _).trans (reads.readTokens done)
    cases token with
    | word word =>
      obtain ⟨readable, parts⟩ := known word rfl
      obtain ⟨found, copies, reads⟩ := readsAs_written spelled readable parts
      exact ⟨_, .word copies, behind _ reads⟩
    | openList | closeList | openRecord | closeRecord | comma | colon =>
      obtain ⟨found, alike, reads⟩ := readsAs_mark spelled rfl Copies rest
      exact ⟨found, alike, behind found reads⟩

theorem readTokens_off_line (done : List Token) (rest : List Char) {gap : List Char}
    {word : Json.Word} {chars : List Char} (blank : Json.verbatim.gap gap)
    (spelled : Json.verbatim.word word chars)
    (off : ∃ text ∈ word.text?, ¬ Json.OnLine text) :
    readTokens done (gap ++ (chars ++ rest)) = none := by
  obtain ⟨inner, isText, off⟩ := off
  obtain ⟨⟨pieces, spellings, pieced, split⟩, rfl⟩ := Json.isInner_of_verbatim spelled isText
  simp only [Json.OnLine, not_forall, not_not] at off
  obtain ⟨c, inside, separates⟩ := off
  have nothing := readPieces_none pieced (split ▸ inside) separates [] (['"'] ++ rest)
  have noToken : readToken? '"' (inner.toList ++ ['"'] ++ rest) = none := by
    rw [readToken?_word (by decide), if_pos (.inl rfl), List.append_assoc, split, nothing]
    rfl
  rw [readTokens_gap (isGap_of_json blank), Json.marked, List.cons_append, readTokens,
    skipGap_visible rfl (by decide)]
  dsimp only
  rw [noToken]

mutual

def copy : Json → Literal
  | .null => .null []
  | .bool value => .bool [] value
  | .number text => .number [] text.toList
  | .string inner => .string [] (piecesOf inner.toList)
  | .array items => .list [] (copyItems items)
  | .object members => .record [] (copyMembers members)

def copyItems : List Json → List Literal
  | [] => []
  | item :: rest => copy item :: copyItems rest

def copyMembers : List (String × Json) → List (Key × Literal)
  | [] => []
  | (name, value) :: rest => (⟨[], piecesOf name.toList⟩, copy value) :: copyMembers rest

end

def copyMember (member : String × Json) : Key × Literal :=
  (⟨[], piecesOf member.1.toList⟩, copy member.2)

theorem copyItems_eq_map (items : List Json) : copyItems items = items.map copy := by
  induction items with
  | nil => rfl
  | cons item rest ih => exact congrArg (copy item :: ·) ih

theorem copyMembers_eq_map (members : List (String × Json)) :
    copyMembers members = members.map copyMember := by
  induction members with
  | nil => rfl
  | cons member rest ih => exact congrArg (copyMember member :: ·) ih

mutual

def plain : Literal → Literal
  | .null _ => .null []
  | .bool _ value => .bool [] value
  | .number _ text => .number [] text
  | .string _ pieces => .string [] pieces
  | .list _ items => .list [] (plainItems items)
  | .record _ members => .record [] (plainMembers members)

def plainItems : List Literal → List Literal
  | [] => []
  | item :: rest => plain item :: plainItems rest

def plainMembers : List (Key × Literal) → List (Key × Literal)
  | [] => []
  | (key, value) :: rest => (⟨[], key.pieces⟩, plain value) :: plainMembers rest

end

def plainMember (member : Key × Literal) : Key × Literal :=
  (⟨[], member.1.pieces⟩, plain member.2)

theorem plainItems_eq_map (items : List Literal) : plainItems items = items.map plain := by
  induction items with
  | nil => rfl
  | cons item rest ih => exact congrArg (plain item :: ·) ih

theorem plainMembers_eq_map (members : List (Key × Literal)) :
    plainMembers members = members.map plainMember := by
  induction members with
  | nil => rfl
  | cons member rest ih => exact congrArg (plainMember member :: ·) ih

theorem map_eq_of_forall₂ {α β γ : Type} {f : α → γ} {g : β → γ} {left : List α} {right : List β}
    (same : List.Forall₂ (fun a b => g b = f a) left right) : right.map g = left.map f := by
  induction same with
  | nil => rfl
  | cons head _ ih => rw [List.map_cons, List.map_cons, head, ih]

theorem format_takes_written : format.Takes Copies
    (fun name key => key.pieces = piecesOf name.toList)
    (fun written literal => literal.plain = copy written) where
  key := by
    rintro name ⟨source, form⟩ copies
    cases copies
    exact ⟨⟨source, piecesOf name.toList⟩, rfl, rfl⟩
  value := by
    rintro json ⟨source, form⟩ copies
    cases json with
    | string inner =>
      cases copies
      exact ⟨.string source (piecesOf inner.toList), rfl, rfl⟩
    | null =>
      cases copies
      exact ⟨.null source, (named?_plain source).1, rfl⟩
    | bool value =>
      cases value with
      | true =>
        cases copies
        exact ⟨.bool source true, (named?_plain source).2.1, rfl⟩
      | false =>
        cases copies
        exact ⟨.bool source false, (named?_plain source).2.2, rfl⟩
    | number text =>
      cases copies
      exact ⟨.number source text.toList, rfl, rfl⟩
    | array | object => cases copies
  list source each := by
    rw [format, plain, copy, plainItems_eq_map, copyItems_eq_map, map_eq_of_forall₂ each]
  record source each := by
    rw [format, plain, copy, plainMembers_eq_map, copyMembers_eq_map]
    refine congrArg _ (map_eq_of_forall₂ (each.imp fun member pair both => ?_))
    rw [plainMember, copyMember, both.1, both.2]

section

variable {written : Json} {text : String} (records : written.Records text)

include records

/-- A JSON text is read as a copy of what is written in it. -/
theorem read?_of_records (onLines : written.OnLines) :
    ∃ literal, read? text.toList = some literal ∧ literal.plain = copy written := by
  obtain ⟨layout, writes, grammatical, rfl⟩ := records
  rw [String.toList_ofList]
  exact writes.read verbatim_readBy format_takes_written nofun
    (fun word inside => ⟨grammatical word inside, onLines word inside⟩) nofun

/-- A separator in one of the strings keeps the whole text from being read. -/
theorem read?_off_line (off : ¬ written.OnLines) : read? text.toList = none := by
  obtain ⟨layout, writes, grammatical, rfl⟩ := records
  have tokens : layout.tokens = written.tokens := writes.tokens
  simp only [Json.OnLines, Json.AllWords, not_forall] at off
  obtain ⟨word, inside, text, isText, off⟩ := off
  rw [← tokens] at inside
  have known : ∀ other, .word other ∈ layout.tokens →
      ReadableInJson other ∨ ∃ text ∈ other.text?, ¬ Json.OnLine text := by
    intro other member
    by_cases onLine : ∀ text ∈ other.text?, Json.OnLine text
    · exact .inl ⟨grammatical other (writes.tokens_alike.2 other member), onLine⟩
    · simp only [not_forall] at onLine
      obtain ⟨text, isText, off⟩ := onLine
      exact .inr ⟨text, isText, off⟩
  have stuck := verbatim_readBy.stuck readTokens_off_line writes.lexemes writes.ending
    writes.tokens_alike.1 known inside ⟨text, isText, off⟩ []
  rw [String.toList_ofList, read?]
  exact congrArg (Option.bind · format.read) stuck

end

end CloudAudit.Literal
