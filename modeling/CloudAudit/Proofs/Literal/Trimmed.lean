import CloudAudit.Proofs.Literal.Verbatim
import CloudAudit.Proofs.Outline.Translation
import CloudAudit.Text.Space

/-! Blanks at the end of a text. No token goes on into them and none comes of them, so with them the
same tokens are read, or none again. -/
namespace CloudAudit.Literal

open Outline Text

theorem isHexDigit_of_number {digits : List Char} {n : Nat} (number : hexNumber? digits = some n) :
    ∀ c ∈ digits, isHexDigit c = true :=
  isHexDigit_of_writes (hexNumber?_eq_some_iff.1 number)

structure Apart (c : Char) : Prop where
  slash : c ≠ '/'
  star : c ≠ '*'
  backslash : c ≠ '\\'
  code : c ≠ 'u'
  quote : c ∉ ['"', '\'']
  digit : isHexDigit c = false
  numeral : isNumeralChar c = false
  name : isIdentifierPart c = false

theorem apart_of_blank {c : Char} (listed : c ∈ blanks) : Apart c := by
  have all : blanks.all (fun c => c ∉ ['/', '*', '\\', 'u', '"', '\''] && !isHexDigit c &&
      !isNumeralChar c && !isIdentifierPart c) = true := by decide +kernel
  have facts := List.all_eq_true.1 all c listed
  simp only [Bool.and_eq_true, Bool.not_eq_true', decide_eq_true_eq, List.mem_cons,
    List.not_mem_nil, or_false, not_or] at facts
  obtain ⟨⟨⟨⟨slash, star, backslash, code, quotes⟩, digit⟩, numeral⟩, name⟩ := facts
  exact ⟨slash, star, backslash, code, by simp [quotes], digit, numeral, name⟩

section

variable {gap : List Char} (blank : ∀ c ∈ gap, c ∈ blanks)

include blank

/-- What does not end in a blank begins a text if it begins it with blanks behind it. -/
theorem prefix_of_prefix_blanks {part text : List Char} (visible : ∀ c ∈ part.getLast?, c ∉ blanks)
    (begins : part <+: text ++ gap) : part <+: text := by
  rcases List.prefix_or_prefix_of_prefix begins (List.prefix_append text gap) with
    inside | ⟨rest, rfl⟩
  · exact inside
  · have within : rest <+: gap := (List.prefix_append_right_inj text).1 begins
    cases last : rest.getLast? with
    | none =>
      obtain rfl := List.getLast?_eq_none_iff.1 last
      simp
    | some c =>
      refine absurd (blank c (within.subset (List.mem_of_getLast? last))) (visible c ?_)
      rw [List.getLast?_append, last]
      rfl

theorem head_of_append_blanks {c : Char} (visible : c ∉ blanks) {text rest : List Char}
    (begins : text ++ gap = c :: rest) : ∃ more, text = c :: more := by
  have first : [c] <+: text ++ gap := ⟨rest, begins.symm⟩
  obtain ⟨more, same⟩ := prefix_of_prefix_blanks blank (by simpa using visible) first
  exact ⟨more, same.symm⟩

theorem skipGap_blanks (state : Gap) : skipGap state gap = skipGap state [] := by
  induction gap generalizing state with
  | nil => rfl
  | cons c rest ih =>
    obtain ⟨listed, others⟩ := List.forall_mem_cons.1 blank
    have apart := apart_of_blank listed
    cases state with
    | «open» =>
      rw [skipGap_of_ne_slash apart.slash, if_pos (isBlank_of_mem listed)]
      exact ih others .open
    | line =>
      have sameEnd : skipGap .line [] = skipGap .open [] := rfl
      rw [skipGap_line_cons]
      split
      · rw [ih others .open, sameEnd]
      · rw [ih others .line]
    | block =>
      rw [skipGap_block_cons fun _ star _ => apart.star star]
      exact ih others .block

end

def behind (gap : List Char) : List Char → List Char
  | [] => []
  | c :: rest => c :: (rest ++ gap)

section

variable {gap : List Char} (blank : ∀ c ∈ gap, c ∈ blanks)

include blank

theorem skipGap_append_blanks (state : Gap) (text : List Char) :
    skipGap state (text ++ gap) = (skipGap state text).map (behind gap) := by
  fun_induction skipGap state text with
  | case1 rest ih => simpa using ih
  | case2 rest ih => simpa using ih
  | case3 c rest noLine noBlock isBlank ih =>
    have noSlash : c ≠ '/' := by
      rintro rfl
      cases isBlank
    simpa [skipGap_of_ne_slash noSlash, isBlank] using ih
  | case4 c rest noLine noBlock visible =>
    have stillNoLine : ∀ tail, c = '/' → rest ++ gap = '/' :: tail → False := by
      intro tail slash begins
      obtain ⟨more, same⟩ := head_of_append_blanks blank (by decide) begins
      exact noLine more slash same
    have stillNoBlock : ∀ tail, c = '/' → rest ++ gap = '*' :: tail → False := by
      intro tail slash begins
      obtain ⟨more, same⟩ := head_of_append_blanks blank (by decide) begins
      exact noBlock more slash same
    rw [List.cons_append, skipGap_open_cons stillNoLine stillNoBlock, if_neg visible]
    simp [behind]
  | case5 c rest ends ih => simpa [ends] using ih
  | case6 c rest goesOn ih => simpa [goesOn] using ih
  | case7 rest ih => simpa using ih
  | case8 c rest noEnd ih =>
    have stillNoEnd : ∀ tail, c = '*' → rest ++ gap = '/' :: tail → False := by
      intro tail star begins
      obtain ⟨more, same⟩ := head_of_append_blanks blank (by decide) begins
      exact noEnd more star same
    rw [List.cons_append, skipGap_block_cons stillNoEnd, ih]
  | case9 => exact skipGap_blanks blank .block
  | case10 state notBlock =>
    rw [List.nil_append, skipGap_blanks blank]
    cases state with
    | block => exact absurd rfl notBlock
    | «open» | line => rfl

end

section

variable {mark : Char}

theorem readPieces_continued {c : Char} {rest : List Char} (ends : endsLine c = true)
    (single : ∀ more, c = '\r' → rest = '\n' :: more → False) (done : List Piece) :
    readPieces mark done ('\\' :: c :: rest) = readPieces mark done rest := by
  rw [readPieces, if_pos ends]
  · rintro a b c d more rfl
    cases ends
  · rintro a b more rfl
    cases ends
  · exact single

theorem readPieces_escaped {c meant : Char} (goesOn : endsLine c = false)
    (escaped : escaped? c = some meant) (done : List Piece) (rest : List Char) :
    readPieces mark done ('\\' :: c :: rest) = readPieces mark (.char meant [c] :: done) rest := by
  rw [readPieces, goesOn, escaped]
  · rfl
  · rintro a b c d more rfl
    cases escaped
  · rintro a b more rfl
    cases escaped
  · rintro more rfl
    cases goesOn

/-- A string ends at its mark, whatever is behind the mark. -/
theorem readPieces_eq_some (quote : mark ∈ ['"', '\'']) {done : List Piece} {text : List Char}
    {found : List Piece × List Char} (read : readPieces mark done text = some found) :
    ∃ inner, text = inner ++ mark :: found.2 ∧
      ∀ rest, readPieces mark done (inner ++ mark :: rest) = some (found.1, rest) := by
  have inLine : mark ≠ '\\' ∧ mark ≠ '\n' := by
    rcases List.mem_pair.1 quote with rfl | rfl <;> decide
  fun_induction readPieces mark done text with
  | case1 | case3 | case5 | case9 | case11 => cases read
  | case2 done a b c d rest code number ih =>
    obtain ⟨inner, rfl, reads⟩ := ih read
    refine ⟨'\\' :: 'u' :: a :: b :: c :: d :: inner, rfl, fun rest => ?_⟩
    rw [← reads rest]
    simp [readPieces, number]
  | case4 done a b rest code number ih =>
    obtain ⟨inner, rfl, reads⟩ := ih read
    refine ⟨'\\' :: 'x' :: a :: b :: inner, rfl, fun rest => ?_⟩
    rw [← reads rest]
    simp [readPieces, number]
  | case6 done rest ih =>
    obtain ⟨inner, rfl, reads⟩ := ih read
    refine ⟨'\\' :: '\r' :: '\n' :: inner, rfl, fun rest => ?_⟩
    rw [← reads rest]
    simp [readPieces]
  | case7 done c rest noCode noByte noReturn ends ih =>
    obtain ⟨inner, rfl, reads⟩ := ih read
    refine ⟨'\\' :: c :: inner, rfl, fun rest => ?_⟩
    rw [← reads rest]
    refine readPieces_continued ends (fun more isReturn begins => ?_) done
    cases inner with
    | nil => exact inLine.2 (List.cons.inj begins).1
    | cons d inner =>
      obtain ⟨rfl, _⟩ := List.cons.inj begins
      exact noReturn _ isReturn rfl
  | case8 done c rest noCode noByte noReturn goesOn meant escaped ih =>
    obtain ⟨inner, rfl, reads⟩ := ih read
    refine ⟨'\\' :: c :: inner, rfl, fun rest => ?_⟩
    rw [← reads rest]
    exact readPieces_escaped (Bool.eq_false_iff.2 goesOn) escaped done _
  | case10 done rest =>
    cases read
    refine ⟨[], rfl, fun rest => ?_⟩
    simp [readPieces, inLine.1]
  | case12 done c rest noCode noByte noReturn noEscape noMark inside ih =>
    obtain ⟨inner, rfl, reads⟩ := ih read
    refine ⟨c :: inner, rfl, fun rest => ?_⟩
    simp only [Bool.or_eq_true, decide_eq_true_eq, not_or, endsLine_iff] at inside
    exact (readPieces_raw noMark inside.1 inside.2 done _).trans (reads rest)

end

def BeginsCode (c : Char) (rest : List Char) : Prop :=
  ∃ digits more code, c = '\\' ∧ rest = 'u' :: digits ++ more ∧ digits.length = 4 ∧
    hexNumber? digits = some code

theorem readName_stops {c : Char} {rest : List Char} (stops : isIdentifierPart c = false)
    (noCode : ¬ BeginsCode c rest) (done : List Piece) :
    readName done (c :: rest) = (done.reverse, c :: rest) := by
  rw [readName.eq_def]
  split
  case h_1 same => cases same
  case h_2 a b d e more same =>
    cases same
    cases number : hexNumber? [a, b, d, e] with
    | none => rfl
    | some code => exact absurd ⟨[a, b, d, e], more, code, rfl, rfl, rfl, number⟩ noCode
  case h_3 same =>
    cases same
    rw [if_neg (Bool.eq_false_iff.1 stops)]

theorem readName?_plain {c : Char} {rest : List Char} (noCode : ¬ BeginsCode c rest) :
    readName? (c :: rest) =
      if isIdentifierStart c then some (readName [.char c [c]] rest) else none := by
  rw [readName?.eq_def]
  split
  case h_1 a b d e more same =>
    cases same
    cases number : hexNumber? [a, b, d, e] with
    | none =>
      have noStart : isIdentifierStart '\\' = false := by decide +kernel
      rw [noStart]
      rfl
    | some code => exact absurd ⟨[a, b, d, e], more, code, rfl, rfl, rfl, number⟩ noCode
  case h_2 same =>
    cases same
    rfl
  case h_3 same => cases same

section

variable {gap : List Char} (blank : ∀ c ∈ gap, c ∈ blanks)

include blank

/-- The mark of a string is not among the blanks behind a text. -/
theorem readPieces_append_blanks {mark : Char} (quote : mark ∈ ['"', '\'']) (done : List Piece)
    (text : List Char) :
    readPieces mark done (text ++ gap) =
      (readPieces mark done text).map fun found => (found.1, found.2 ++ gap) := by
  cases read : readPieces mark done text with
  | some found =>
    obtain ⟨inner, split, reads⟩ := readPieces_eq_some quote read
    have longer := reads (found.2 ++ gap)
    rw [← List.cons_append, ← List.append_assoc, ← split] at longer
    exact longer
  | none =>
    rw [Option.map_none, Option.eq_none_iff_forall_ne_some]
    intro found readLonger
    obtain ⟨inner, split, reads⟩ := readPieces_eq_some quote readLonger
    have begins : inner ++ [mark] <+: text ++ gap := ⟨found.2, by rw [split]; simp⟩
    have visible : mark ∉ blanks := fun listed => (apart_of_blank listed).quote quote
    obtain ⟨rest, same⟩ := prefix_of_prefix_blanks blank (by simpa using visible) begins
    have all := reads rest
    rw [List.append_cons, same, read] at all
    cases all

/-- The digits of a code are all in front of the blanks, or they are no number. -/
theorem beginsCode_append_blanks {c : Char} {rest : List Char}
    (begins : BeginsCode c (rest ++ gap)) : BeginsCode c rest := by
  obtain ⟨digits, more, code, isBackslash, split, four, number⟩ := begins
  have visible : ∀ d ∈ ('u' :: digits).getLast?, d ∉ blanks := by
    intro d last listed
    have apart := apart_of_blank listed
    have digit : d ∈ digits :=
      (List.mem_cons.1 (List.mem_of_getLast? last)).resolve_left apart.code
    have isDigit := isHexDigit_of_number number d digit
    rw [apart.digit] at isDigit
    cases isDigit
  obtain ⟨rest, rfl⟩ := prefix_of_prefix_blanks blank visible ⟨more, split.symm⟩
  exact ⟨digits, rest, code, isBackslash, rfl, four, number⟩

theorem readName_append_blanks (done : List Piece) (text : List Char) :
    readName done (text ++ gap) = ((readName done text).1, (readName done text).2 ++ gap) := by
  fun_induction readName done text with
  | case1 done =>
    cases gap with
    | nil => rfl
    | cons c rest =>
      have apart := apart_of_blank (blank c (.head _))
      simp [readName, apart.backslash, apart.name]
  | case2 done a b c d rest code number ih => simpa [readName, number] using ih
  | case3 done a b c d rest noNumber => simp [readName, noNumber]
  | case4 done c rest noCode part ih =>
    have noBackslash : c ≠ '\\' := by
      rintro rfl
      revert part
      decide +kernel
    simpa [readName, noBackslash, part] using ih
  | case5 done c rest noCode stops =>
    refine readName_stops (Bool.eq_false_iff.2 stops) (fun begins => ?_) done
    obtain ⟨digits, more, _, isBackslash, split, four, _⟩ := beginsCode_append_blanks blank begins
    obtain ⟨a, b, d, e, rfl⟩ := List.length_eq_four.1 four
    exact noCode a b d e more isBackslash split

theorem readName?_append_blanks (c : Char) (rest : List Char) :
    readName? (c :: (rest ++ gap)) =
      (readName? (c :: rest)).map fun name => (name.1, name.2 ++ gap) := by
  by_cases begins : BeginsCode c rest
  · obtain ⟨digits, more, code, rfl, rfl, four, number⟩ := begins
    obtain ⟨a, b, d, e, rfl⟩ := List.length_eq_four.1 four
    simp [readName?, number, readName_append_blanks blank]
  · rw [readName?_plain begins, readName?_plain (mt (beginsCode_append_blanks blank) begins),
      readName_append_blanks blank]
    split <;> rfl

theorem span_append_blanks {p : Char → Bool} (stops : ∀ c ∈ blanks, p c = false)
    (text : List Char) :
    (text ++ gap).takeWhile p = text.takeWhile p ∧
      (text ++ gap).dropWhile p = text.dropWhile p ++ gap := by
  induction text with
  | nil =>
    cases gap with
    | nil => exact ⟨rfl, rfl⟩
    | cons c rest => simp [stops c (blank c (.head _))]
  | cons c rest ih =>
    rw [List.cons_append, List.takeWhile_cons, List.takeWhile_cons, List.dropWhile_cons,
      List.dropWhile_cons, ih.1, ih.2]
    split <;> exact ⟨rfl, rfl⟩

theorem readNumber?_append_blanks (text : List Char) :
    readNumber? (text ++ gap) =
      (readNumber? text).map fun number => (number.1, number.2 ++ gap) := by
  obtain ⟨taken, left⟩ :=
    span_append_blanks blank (fun c listed => (apart_of_blank listed).numeral) text
  rw [readNumber?, readNumber?, taken, left]
  split <;> rfl

end

theorem named?_without_source (source : List Char) (pieces : List Piece) :
    named? [] pieces = (named? source pieces).map plain := by
  simp only [named?]
  split_ifs <;> rfl

/-- Where the words come from makes no difference but in the places that literals keep. -/
def withoutSources : Translation format format where
  mark _ := []
  word word := ⟨[], word.form⟩
  key key := ⟨[], key.pieces⟩
  value := plain
  onKey
    | ⟨_, .string _⟩ | ⟨_, .name _⟩ | ⟨_, .number _⟩ => rfl
  onValue
    | ⟨_, .string _⟩ | ⟨_, .number _⟩ => rfl
    | ⟨source, .name pieces⟩ => named?_without_source source pieces
  onList _ items := congrArg (Literal.list []) (plainItems_eq_map items).symm
  onRecord _ members := congrArg (Literal.record []) (plainMembers_eq_map members).symm
  closingComma := rfl
  depth := rfl

section

variable {gap : List Char} (blank : ∀ c ∈ gap, c ∈ blanks)

include blank

theorem readToken?_append_blanks (c : Char) (rest : List Char) :
    (readToken? c (rest ++ gap)).map (Prod.map withoutSources.token id) =
      (readToken? c rest).map (Prod.map withoutSources.token (· ++ gap)) := by
  by_cases isMark : c ∈ ['[', ']', '{', '}', ',', ':']
  · simp only [List.mem_cons, List.not_mem_nil, or_false] at isMark
    rcases isMark with rfl | rfl | rfl | rfl | rfl | rfl <;> rfl
  · rw [readToken?_word isMark, readToken?_word isMark]
    split_ifs with quote number
    · rw [readPieces_append_blanks blank (List.mem_pair.2 quote)]
      cases readPieces c [] rest <;> rfl
    · rw [← List.cons_append, readNumber?_append_blanks blank]
      cases readNumber? (c :: rest) <;> rfl
    · rw [readName?_append_blanks blank]
      cases readName? (c :: rest) <;> rfl

/-- With blanks behind a text its tokens are the same, but for the texts that go on from them. -/
theorem readTokens_append_blanks {done other : List Token}
    (same : done.map withoutSources.token = other.map withoutSources.token) (text : List Char) :
    (readTokens done (text ++ gap)).map (List.map withoutSources.token) =
      (readTokens other text).map (List.map withoutSources.token) := by
  fun_induction readTokens other text generalizing done with
  | case1 other text noGap =>
    rw [readTokens, skipGap_append_blanks blank, noGap]
    rfl
  | case2 other text atEnd =>
    rw [readTokens, skipGap_append_blanks blank, atEnd]
    simp [behind, same]
  | case3 other text c rest skipped noToken =>
    have longer := readToken?_append_blanks blank c rest
    rw [noToken, Option.map_none, Option.map_eq_none_iff] at longer
    rw [readTokens, skipGap_append_blanks blank, skipped]
    dsimp only [Option.map_some, behind]
    rw [longer]
  | case4 other text c rest skipped token found ih =>
    obtain ⟨token, left⟩ := token
    have longer := readToken?_append_blanks blank c rest
    rw [found, Option.map_some, Option.map_eq_some_iff] at longer
    obtain ⟨⟨read, _⟩, readLonger, alike⟩ := longer
    obtain ⟨sameToken, rfl⟩ := Prod.mk.inj alike
    rw [readTokens, skipGap_append_blanks blank, skipped]
    dsimp only [Option.map_some, behind]
    rw [readLonger]
    exact ih (congrArg₂ List.cons sameToken same)

theorem read?_append_blanks (text : List Char) :
    (read? (text ++ gap)).map plain = (read? text).map plain := by
  have plainly (tokens : Option (List Token)) : (tokens.bind format.read).map plain =
      (tokens.map (List.map withoutSources.token)).bind format.read := by
    cases tokens with
    | none => rfl
    | some tokens => exact (withoutSources.read_eq tokens).symm
  rw [read?, read?, plainly, plainly, readTokens_append_blanks blank rfl]

theorem read?_blanks_append (text : List Char) : read? (gap ++ text) = read? text := by
  rw [read?, read?, readTokens_gap (isGap_of_blanks blank)]

end

/-- Of the white space in ASCII all is blank. -/
theorem blank_of_isSpace {c : Char} (ascii : c.toNat < 128) (space : isSpace c = true) :
    c ∈ blanks := by
  have all : (List.range 128).all (fun code =>
      !whiteSpace.hasCode code || Char.ofNat code ∈ blanks) = true := by decide +kernel
  have listed := List.all_eq_true.1 all c.toNat (List.mem_range.2 ascii)
  rw [isSpace, Runs.has] at space
  simpa [space, Char.ofNat_toNat] using listed

theorem trimChars_split (text : List Char) :
    ∃ front back, text = front ++ (trimChars text ++ back) ∧ (∀ c ∈ front, isSpace c = true) ∧
      ∀ c ∈ back, isSpace c = true := by
  let visible := text.dropWhile isSpace
  refine ⟨text.takeWhile isSpace, (visible.reverse.takeWhile isSpace).reverse, ?_,
    fun c inside => List.mem_takeWhile_imp inside,
    fun c inside => List.mem_takeWhile_imp (List.mem_reverse.1 inside)⟩
  have split : visible = trimChars text ++ (visible.reverse.takeWhile isSpace).reverse := by
    rw [trimChars, ← List.reverse_append, List.takeWhile_append_dropWhile, List.reverse_reverse]
  rw [← split, List.takeWhile_append_dropWhile]

/-- White space at the ends of an ASCII text does not change what is read. -/
theorem read?_trimChars {text : List Char} (ascii : ∀ c ∈ text, c.toNat < 128) :
    (read? (trimChars text)).map plain = (read? text).map plain := by
  obtain ⟨front, back, split, spaceFront, spaceBack⟩ := trimChars_split text
  have blankFront : ∀ c ∈ front, c ∈ blanks := fun c inside =>
    blank_of_isSpace (ascii c (by rw [split]; simp [inside])) (spaceFront c inside)
  have blankBack : ∀ c ∈ back, c ∈ blanks := fun c inside =>
    blank_of_isSpace (ascii c (by rw [split]; simp [inside])) (spaceBack c inside)
  calc (read? (trimChars text)).map plain
    _ = (read? (trimChars text ++ back)).map plain := (read?_append_blanks blankBack _).symm
    _ = (read? (front ++ (trimChars text ++ back))).map plain := by
      rw [read?_blanks_append blankFront]
    _ = (read? text).map plain := by rw [← split]

end CloudAudit.Literal
