import CloudAudit.Proofs.Json.LaidOut
import CloudAudit.Proofs.Json.Verbatim
import Mathlib.Data.Bool.AllAny

/-! The brackets of a JSON text, counted from left to right. In a string no bracket counts, so the
scan tells strings from what is around them. In the text of an object a bracket is open everywhere
but at the two ends; therefore of two such texts neither is a proper beginning of the other. -/
namespace CloudAudit.Json

open Outline

inductive Within where
  | text
  | string
  /-- Behind a backslash in a string. -/
  | escape
deriving DecidableEq, Repr

structure Scan where
  depth : Nat
  within : Within
deriving DecidableEq, Repr

def Scan.next (scan : Scan) (c : Char) : Scan :=
  match scan.within with
  | .text =>
    if c = '"' then ⟨scan.depth, .string⟩
    else if c = '[' ∨ c = '{' then ⟨scan.depth + 1, .text⟩
    else if c = ']' ∨ c = '}' then ⟨scan.depth - 1, .text⟩
    else scan
  | .string =>
    if c = '"' then ⟨scan.depth, .text⟩
    else if c = '\\' then ⟨scan.depth, .escape⟩
    else scan
  | .escape => ⟨scan.depth, .string⟩

def Scan.over (scan : Scan) (text : List Char) : Scan := text.foldl Scan.next scan

theorem Scan.over_cons (scan : Scan) (c : Char) (rest : List Char) :
    scan.over (c :: rest) = (scan.next c).over rest := rfl

theorem Scan.over_append (scan : Scan) (text more : List Char) :
    scan.over (text ++ more) = (scan.over text).over more :=
  List.foldl_append

/-- A scan of the text comes back to where it starts and closes no bracket that was open there. -/
structure Keeps (within : Within) (text : List Char) : Prop where
  settled : ∀ level, Scan.over ⟨level, within⟩ text = ⟨level, within⟩
  above : ∀ level part, part <+: text → level ≤ (Scan.over ⟨level, within⟩ part).depth

namespace Keeps

variable {within inner : Within} {text more : List Char}

theorem nil (within : Within) : Keeps within [] where
  settled _ := rfl
  above level part begins := by
    rw [List.prefix_nil.1 begins]
    exact Nat.le_refl _

theorem append (first : Keeps within text) (second : Keeps within more) :
    Keeps within (text ++ more) where
  settled level := by rw [Scan.over_append, first.settled, second.settled]
  above level part begins := by
    rcases List.prefix_or_prefix_of_prefix begins (List.prefix_append text more) with
      short | ⟨rest, rfl⟩
    · exact first.above level part short
    · rw [Scan.over_append, first.settled]
      exact second.above level rest ((List.prefix_append_right_inj text).1 begins)

theorem flatten {texts : List (List Char)} (each : ∀ text ∈ texts, Keeps within text) :
    Keeps within texts.flatten := by
  induction texts with
  | nil => exact nil within
  | cons text rest ih =>
    obtain ⟨first, others⟩ := List.forall_mem_cons.1 each
    exact first.append (ih others)

theorem single {c : Char} (stays : ∀ level, Scan.next ⟨level, within⟩ c = ⟨level, within⟩) :
    Keeps within [c] where
  settled := stays
  above level part begins := by
    rcases List.prefix_cons_iff.1 begins with rfl | ⟨rest, rfl, none⟩
    · exact Nat.le_refl _
    · rw [List.prefix_nil.1 none, Scan.over_cons, stays]
      exact Nat.le_refl _

theorem each {text : List Char}
    (stays : ∀ c ∈ text, ∀ level, Scan.next ⟨level, within⟩ c = ⟨level, within⟩) :
    Keeps within text := by
  induction text with
  | nil => exact nil within
  | cons c rest ih =>
    obtain ⟨first, others⟩ := List.forall_mem_cons.1 stays
    exact (single first).append (ih others)

/-- Between a first and a last character that undo each other. -/
theorem enclosed {first last : Char} (body : Keeps inner text)
    (inside : ∀ level, ∃ height, level ≤ height ∧
      Scan.next ⟨level, within⟩ first = ⟨height, inner⟩ ∧
      Scan.next ⟨height, inner⟩ last = ⟨level, within⟩) :
    Keeps within (first :: text ++ [last]) where
  settled level := by
    obtain ⟨height, _, opens, closes⟩ := inside level
    rw [List.cons_append, Scan.over_cons, opens, Scan.over_append, body.settled]
    exact closes
  above level part begins := by
    obtain ⟨height, higher, opens, closes⟩ := inside level
    rcases List.prefix_cons_iff.1 begins with rfl | ⟨rest, rfl, behind⟩
    · exact Nat.le_refl _
    rw [Scan.over_cons, opens]
    rcases List.prefix_concat_iff.1 behind with rfl | short
    · rw [Scan.over_append, body.settled, Scan.over_cons, closes]
      exact Nat.le_refl _
    · exact Nat.le_trans higher (body.above height rest short)

end Keeps

def marks : List Char := ['"', '[', ']', '{', '}']

theorem Keeps.plain {text : List Char} (plain : ∀ c ∈ text, c ∉ marks) : Keeps .text text := by
  refine .each fun c inside level => ?_
  have other := plain c inside
  simp only [marks, List.mem_cons, List.not_mem_nil, or_false, not_or] at other
  simp [Scan.next, other]

theorem Keeps.bracketed {body : List Char} (keeps : Keeps .text body) {first last : Char}
    (pair : (first, last) ∈ [('[', ']'), ('{', '}')]) : Keeps .text (first :: body ++ [last]) := by
  refine keeps.enclosed fun level => ⟨level + 1, Nat.le_succ level, ?_⟩
  rcases List.mem_pair.1 pair with same | same <;> cases same <;> exact ⟨rfl, rfl⟩

theorem keeps_backslash (letter : Char) : Keeps .string ['\\', letter] :=
  (Keeps.nil .escape).enclosed fun level => ⟨level, Nat.le_refl level, rfl, rfl⟩

theorem keeps_raw {c : Char} (noMark : c ≠ '"') (noBackslash : c ≠ '\\') : Keeps .string [c] :=
  .single fun level => by simp [Scan.next, noMark, noBackslash]

theorem keeps_hexadecimal {code : Nat} {digits : List Char}
    (writes : Text.WritesHexadecimal code digits) : Keeps .string digits := by
  refine .each fun c inside level => ?_
  have digit := Text.isHexDigit_of_writes writes c inside
  have noMark : c ≠ '"' := by
    rintro rfl
    cases digit
  have noBackslash : c ≠ '\\' := by
    rintro rfl
    cases digit
  simp [Scan.next, noMark, noBackslash]

theorem SpellsPiece.keeps {piece : Piece} {chars : List Char} (spelled : SpellsPiece piece chars) :
    Keeps .string chars := by
  cases spelled with
  | raw _ noMark noBackslash => exact keeps_raw noMark noBackslash
  | named => exact keeps_backslash _
  | code _ writes => exact (keeps_backslash 'u').append (keeps_hexadecimal writes)

theorem IsInner.keeps {inner : List Char} (isInner : IsInner inner) : Keeps .string inner := by
  obtain ⟨pieces, spellings, spelled, rfl⟩ := isInner
  apply Keeps.flatten
  induction spelled with
  | nil => exact List.forall_mem_nil _
  | cons head _ ih => exact List.forall_mem_cons.2 ⟨head.keeps, ih⟩

theorem keeps_marked {inner : String} (isInner : IsInner inner.toList) :
    Keeps .text (marked inner) :=
  isInner.keeps.enclosed fun level => ⟨level, Nat.le_refl level, rfl, rfl⟩

/-- What is quoted stands between its marks as the strict reader allows. -/
theorem isInner_of_quotes {text : String} {chars : List Char}
    (quotes : Script.Quotes SpellsChar '"' text chars) :
    ∃ inner : String, chars = marked inner ∧ IsInner inner.toList := by
  obtain ⟨spellings, _, same⟩ := id quotes
  obtain ⟨behind, split, reads⟩ := readString?_of_quotes quotes
  obtain rfl := (List.cons.inj (split.symm.trans same)).2
  have read := reads []
  rw [List.append_nil] at read
  obtain ⟨pieces, first, read⟩ := Option.bind_eq_some_iff.1 read
  obtain ⟨_, _, ended⟩ := Option.map_eq_some_iff.1 read
  refine ⟨String.ofList spellings.flatten, by rw [same, marked, String.toList_ofList], ?_⟩
  rw [String.toList_ofList, isInner_iff]
  exact ⟨pieces, first, (Prod.ext_iff.1 ended).2⟩

inductive Paired : Outline.Token Unit Word → Outline.Token Unit Word → Prop
  | list : Paired (.openList ()) .closeList
  | record : Paired (.openRecord ()) .closeRecord

inductive Balanced : List (Outline.Token Unit Word) → Prop
  | nil : Balanced []
  | word (word : Word) {rest : List (Outline.Token Unit Word)} (behind : Balanced rest) :
    Balanced (.word word :: rest)
  | comma {rest : List (Outline.Token Unit Word)} (behind : Balanced rest) :
    Balanced (.comma :: rest)
  | colon {rest : List (Outline.Token Unit Word)} (behind : Balanced rest) :
    Balanced (.colon :: rest)
  | nested {first last : Outline.Token Unit Word} {inner rest : List (Outline.Token Unit Word)}
    (pair : Paired first last) (inside : Balanced inner) (behind : Balanced rest) :
    Balanced (first :: (inner ++ last :: rest))

theorem Balanced.append {tokens more : List (Outline.Token Unit Word)} (first : Balanced tokens)
    (second : Balanced more) : Balanced (tokens ++ more) := by
  induction first with
  | nil => exact second
  | word word _ ih => exact .word word ih
  | comma _ ih => exact .comma ih
  | colon _ ih => exact .colon ih
  | nested pair inside _ _ ih =>
    rw [List.cons_append, List.append_assoc]
    exact .nested pair inside ih

mutual

theorem balanced_tokens : ∀ json : Json, Balanced json.tokens
  | .null | .bool _ | .number _ | .string _ => .word _ .nil
  | .array [] => .nested .list .nil .nil
  | .array (item :: rest) =>
    .nested .list ((balanced_tokens item).append (balanced_itemTokens rest)) .nil
  | .object [] => .nested .record .nil .nil
  | .object ((_, value) :: rest) =>
    .nested .record (.word _ (.colon ((balanced_tokens value).append (balanced_memberTokens rest))))
      .nil

theorem balanced_itemTokens : ∀ items : List Json, Balanced (itemTokens items)
  | [] => .nil
  | item :: rest => .comma ((balanced_tokens item).append (balanced_itemTokens rest))

theorem balanced_memberTokens : ∀ members : List (String × Json), Balanced (memberTokens members)
  | [] => .nil
  | (_, value) :: rest =>
    .comma (.word _ (.colon ((balanced_tokens value).append (balanced_memberTokens rest))))

end

theorem tokens_object_balanced (members : List (String × Json)) :
    ∃ inner, (object members).tokens = .openRecord () :: (inner ++ [.closeRecord]) ∧
      Balanced inner := by
  cases members with
  | nil => exact ⟨[], rfl, .nil⟩
  | cons member rest =>
    have behind := (balanced_tokens member.2).append (balanced_memberTokens rest)
    exact ⟨_, rfl, .word _ (.colon behind)⟩

def blanks : List Char := [' ', '\t', '\n', '\r']

/-- Scripts in which brackets can be counted: they stand in no gap and, outside of strings, in no
word. -/
structure Countable (script : Script) : Prop where
  gap : ∀ {gap}, script.gap gap → ∀ c ∈ gap, c ∈ blanks
  ending : ∀ {ending}, script.ending ending → ∀ c ∈ ending, c ∈ blanks
  word : ∀ {word chars}, script.word word chars → Grammatical word → Keeps .text chars
  noClosingComma : script.closingComma = false

theorem keeps_blank {gap : List Char} (blank : ∀ c ∈ gap, c ∈ blanks) : Keeps .text gap := by
  have apart : blanks.all (· ∉ marks) = true := by decide
  exact .plain fun c inside => List.all_iff_forall_prop.1 apart c (blank c inside)

theorem keeps_numeral {text : String} {numeral : Decimal.Numeral}
    (writes : WritesNumeral numeral text.toList) : Keeps .text text.toList := by
  have apart : marks.all (!isNumeralChar ·) = true := by decide
  refine .plain fun c inside listed => ?_
  have other := List.all_eq_true.1 apart c listed
  rw [writes.isNumeralChar c inside] at other
  cases other

/-- Of the words only the quoted ones depend on the script. -/
theorem keeps_wordOf {quotes : String → List Char → Prop}
    (quoted : ∀ text chars, quotes text chars → Keeps .text chars) {word : Word}
    {chars : List Char} (spelled : Script.wordOf quotes quotes word chars)
    (grammatical : Grammatical word) : Keeps .text chars := by
  have plain {text : List Char} (apart : text.all (· ∉ marks) = true) : Keeps .text text :=
    .plain (List.all_iff_forall_prop.1 apart)
  cases word with
  | name text => exact quoted text chars spelled
  | atom atom =>
    cases atom with
    | string text => exact quoted text chars spelled
    | number text =>
      cases spelled
      obtain ⟨numeral, writes⟩ := grammatical
      exact keeps_numeral writes
    | null => cases spelled; exact plain (by decide)
    | bool value => cases value <;> cases spelled <;> exact plain (by decide)
    | array | object => cases spelled

theorem countable_verbatim : Countable verbatim where
  gap blank := blank
  ending blank := blank
  word spelled := by
    refine keeps_wordOf (fun inner chars quoted => ?_) spelled
    obtain ⟨isInner, rfl⟩ := quoted
    exact keeps_marked isInner
  noClosingComma := rfl

theorem countable_script : Countable script where
  gap blank := blank
  ending blank := blank
  word spelled := by
    refine keeps_wordOf (fun text chars quotes => ?_) spelled
    obtain ⟨inner, rfl, isInner⟩ := isInner_of_quotes quotes
    exact keeps_marked isInner
  noClosingComma := rfl

theorem spells_paired {script : Script} {first last : Outline.Token Unit Word}
    (pair : Paired first last) {opening closing : List Char}
    (spelledFirst : script.spells first opening) (spelledLast : script.spells last closing) :
    ∃ a b, opening = [a] ∧ closing = [b] ∧ (a, b) ∈ [('[', ']'), ('{', '}')] := by
  cases pair <;> cases spelledFirst <;> cases spelledLast
  · exact ⟨'[', ']', rfl, rfl, .head _⟩
  · exact ⟨'{', '}', rfl, rfl, .tail _ (.head _)⟩

structure Written (script : Script) (tokens : List (Outline.Token Unit Word))
    (lexemes : List Lexeme) : Prop where
  tokens : lexemes.map (·.token) = tokens
  each : ∀ lexeme ∈ lexemes, script.gap lexeme.gap ∧ script.spells lexeme.token lexeme.chars

namespace Written

variable {script : Script} {token : Outline.Token Unit Word}
  {tokens more : List (Outline.Token Unit Word)} {lexemes : List Lexeme}

theorem cons (written : Written script (token :: tokens) lexemes) :
    ∃ gap chars rest, lexemes = ⟨gap, token, chars⟩ :: rest ∧ script.gap gap ∧
      script.spells token chars ∧ Written script tokens rest := by
  obtain ⟨lexeme, rest, rfl, rfl, tail⟩ := List.map_eq_cons_iff.1 written.tokens
  obtain ⟨⟨gap, spelled⟩, others⟩ := List.forall_mem_cons.1 written.each
  exact ⟨lexeme.gap, lexeme.chars, rest, rfl, gap, spelled, tail, others⟩

theorem append (written : Written script (tokens ++ more) lexemes) :
    ∃ front rest, lexemes = front ++ rest ∧ Written script tokens front ∧
      Written script more rest := by
  obtain ⟨front, rest, rfl, first, second⟩ := List.map_eq_append_iff.1 written.tokens
  obtain ⟨before, behind⟩ := List.forall_mem_append.1 written.each
  exact ⟨front, rest, rfl, ⟨first, before⟩, second, behind⟩

end Written

section

variable {script : Script} (countable : Countable script)

include countable

/-- Where the tokens are balanced, so are the brackets of the text. -/
theorem keeps_lexemes {tokens : List (Outline.Token Unit Word)} (balanced : Balanced tokens)
    {lexemes : List Lexeme} (written : Written script tokens lexemes)
    (grammatical : ∀ word, .word word ∈ tokens → Grammatical word) :
    Keeps .text (lexemes.flatMap lexemeChars) := by
  induction balanced generalizing lexemes with
  | nil =>
    cases List.map_eq_nil_iff.1 written.tokens
    exact .nil .text
  | word word _ ih =>
    obtain ⟨gap, chars, rest, rfl, blank, spelled, others⟩ := written.cons
    have here := countable.word spelled (grammatical word (.head _))
    have behind := ih others fun word inside => grammatical word (.tail _ inside)
    exact ((keeps_blank (countable.gap blank)).append here).append behind
  | comma _ ih | colon _ ih =>
    obtain ⟨gap, chars, rest, rfl, blank, rfl, others⟩ := written.cons
    have behind := ih others fun word inside => grammatical word (.tail _ inside)
    exact ((keeps_blank (countable.gap blank)).append (.plain (by simp [marks]))).append behind
  | nested pair _ _ ihInside ihBehind =>
    obtain ⟨gap, _, _, rfl, blank, spelledFirst, others⟩ := written.cons
    obtain ⟨body, _, rfl, inside, others⟩ := others.append
    obtain ⟨gapLast, _, rest, rfl, blankLast, spelledLast, behind⟩ := others.cons
    obtain ⟨a, b, rfl, rfl, brackets⟩ := spells_paired pair spelledFirst spelledLast
    have insideKeeps := ihInside inside fun word listed => grammatical word (by simp [listed])
    have behindKeeps := ihBehind behind fun word listed => grammatical word (by simp [listed])
    have between := insideKeeps.append (keeps_blank (countable.gap blankLast))
    have whole := (keeps_blank (countable.gap blank)).append (between.bracketed brackets)
    simpa [lexemeChars] using whole.append behindKeeps

end

def Braced (text : List Char) : Prop := ∃ body, Keeps .text body ∧ text = '{' :: (body ++ ['}'])

/-- Of two braced texts neither is a proper beginning of the other. -/
theorem Braced.eq_of_prefix {text more : List Char} (one : Braced text) (other : Braced more)
    (begins : text <+: more) : text = more := by
  obtain ⟨body, keeps, rfl⟩ := one
  obtain ⟨longer, keepsLonger, rfl⟩ := other
  rcases List.prefix_concat_iff.1 (List.cons_prefix_cons.1 begins).2 with same | inside
  · rw [same]
  · -- the last brace of the one would close what the other still holds open
    have isOpen := keepsLonger.above 1 _ inside
    rw [Scan.over_append, keeps.settled] at isOpen
    exact absurd isOpen (by decide)

theorem Braced.eq_of_append_eq {text more rest behind : List Char} (one : Braced text)
    (other : Braced more) (same : text ++ rest = more ++ behind) : text = more := by
  have begins : text <+: more ++ behind := ⟨rest, same⟩
  rcases List.prefix_or_prefix_of_prefix begins (List.prefix_append more behind) with
    shorter | longer
  · exact one.eq_of_prefix other shorter
  · exact (other.eq_of_prefix one longer).symm

theorem braced_of_writes {script : Script} (countable : Countable script) {layout : Layout}
    {members : List (String × Json)} (writes : layout.Writes script (.object members))
    (grammatical : (object members).AllWords Grammatical) :
    ∃ gap core ending, (∀ c ∈ gap, c ∈ blanks) ∧ Braced core ∧ (∀ c ∈ ending, c ∈ blanks) ∧
      layout.chars = gap ++ (core ++ ending) := by
  obtain ⟨inner, tokens, balanced⟩ := tokens_object_balanced members
  have same : layout.tokens = (object members).tokens := by
    have written := writes.tokens
    rwa [countable.noClosingComma, if_neg Bool.false_ne_true] at written
  have written : Written script (object members).tokens layout.lexemes := ⟨same, writes.lexemes⟩
  rw [AllWords, tokens] at grammatical
  rw [tokens] at written
  obtain ⟨gap, _, _, first, blank, rfl, others⟩ := written.cons
  obtain ⟨body, _, rfl, inside, last⟩ := others.append
  obtain ⟨gapLast, _, _, rfl, blankLast, rfl, ⟨none, _⟩⟩ := last.cons
  cases List.map_eq_nil_iff.1 none
  have keeps := keeps_lexemes countable balanced inside fun word listed =>
    grammatical word (by simp [listed])
  have between := keeps.append (keeps_blank (countable.gap blankLast))
  refine ⟨gap, _, layout.ending, countable.gap blank, ⟨_, between, rfl⟩,
    countable.ending writes.ending, ?_⟩
  show layout.lexemes.flatMap lexemeChars ++ layout.ending = _
  rw [first]
  simp [lexemeChars]

theorem braced_of_records {members : List (String × Json)} {text : String}
    (records : (object members).Records text) (opens : text.toList.head? = some '{')
    (closes : text.toList.getLast? = some '}') : Braced text.toList := by
  obtain ⟨layout, writes, grammatical, rfl⟩ := records
  obtain ⟨gap, core, ending, blank, braced, blankEnding, same⟩ :=
    braced_of_writes countable_verbatim writes grammatical
  rw [String.toList_ofList, same] at opens closes
  have noGap : gap = [] := by
    cases gap with
    | nil => rfl
    | cons c rest =>
      cases opens
      exact absurd (blank '{' (.head _)) (by decide)
  have noEnding : ending = [] := by
    by_contra some
    rw [List.getLast?_append_of_ne_nil _ (by simp [some]),
      List.getLast?_append_of_ne_nil _ some] at closes
    exact absurd (blankEnding '}' (List.mem_of_getLast? closes)) (by decide)
  rwa [String.toList_ofList, same, noGap, noEnding, List.append_nil]

theorem object_of_read? {rest : List Char} {json : Json}
    (read : read? ('{' :: rest) = some json) : ∃ members, json = object members := by
  obtain ⟨found, first, read⟩ := Option.bind_eq_some_iff.1 read
  obtain ⟨_, rfl, atoms, _⟩ := readTokens_eq first
  obtain ⟨alike, _⟩ := tokens_of_read atoms read
  have opening : readTokens [] ('{' :: rest) = readTokens [.openRecord ()] rest := by
    rw [readTokens]
    rfl
  obtain ⟨more, split, _⟩ := readTokens_eq (opening ▸ first)
  rw [split] at alike
  obtain ⟨token, _, isOpening, _, tokens⟩ := List.forall₂_cons_right_iff.1 alike
  cases isOpening
  cases json with
  | object members => exact ⟨members, rfl⟩
  | array items => cases items <;> cases tokens
  | null | bool | number | string => cases tokens

/-- What is read and begins like a braced text is that text, but for blanks behind it. -/
theorem Braced.eq_of_read? {text source rest behind : List Char} {json : Json}
    (braced : Braced text) (read : read? source = some json)
    (same : source ++ rest = text ++ behind) :
    ∃ blank, (∀ c ∈ blank, c ∈ blanks) ∧ source = text ++ blank := by
  have first : ∃ more, source = '{' :: more := by
    obtain ⟨body, _, rfl⟩ := braced
    cases source with
    | nil => cases read?_nil.symm.trans read
    | cons c more => exact ⟨more, by rw [(List.cons.inj same).1]⟩
  obtain ⟨more, rfl⟩ := first
  obtain ⟨members, rfl⟩ := object_of_read? read
  obtain ⟨⟨layout, writes, chars⟩, readable, _⟩ := writes_of_read? read
  obtain ⟨gap, core, ending, blank, bracedCore, blankEnding, split⟩ :=
    braced_of_writes countable_script writes fun word inside =>
      ((readable_iff word).1 (readable word inside)).1
  rw [chars] at split
  cases gap with
  | cons c _ =>
    cases split
    exact absurd (blank '{' (.head _)) (by decide)
  | nil =>
    rw [List.nil_append] at split
    rw [split, List.append_assoc] at same
    exact ⟨ending, blankEnding, by rw [split, bracedCore.eq_of_append_eq braced same]⟩

end CloudAudit.Json
