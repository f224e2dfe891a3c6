import CloudAudit.Proofs.Outline.Document
import Mathlib.Data.List.Chain

/-! Layouts of documents in a text: each token in one of its spellings, with a gap before it. A
reader that reads one spelled token after any gap reads every layout, and a format that allows a
comma before a closing bracket takes a document as it takes the document without such commas. -/
namespace CloudAudit.Outline

open Json (Word)

variable {μ ν α β κ τ : Type}

namespace Token

def isWord : Token μ α → Bool
  | .word _ => true
  | _ => false

def closes : Token μ α → Bool
  | .closeList | .closeRecord => true
  | _ => false

def endsValue (token : Token μ α) : Bool := token.isWord || token.closes

theorem Alike.kind {R : α → β → Prop} {token : Token μ α} {other : Token ν β}
    (alike : Alike R token other) :
    token.isWord = other.isWord ∧ token.closes = other.closes ∧
      token.endsValue = other.endsValue := by
  cases alike <;> exact ⟨rfl, rfl, rfl⟩

end Token

def dropClosingCommas (ended : Bool) : List (Token μ α) → List (Token μ α)
  | [] => []
  | .comma :: rest =>
    if ended && rest.head?.any Token.closes then dropClosingCommas false rest
    else .comma :: dropClosingCommas false rest
  | token :: rest => token :: dropClosingCommas token.endsValue rest

theorem dropClosingCommas_alike {R : α → β → Prop} {tokens : List (Token μ α)}
    {others : List (Token ν β)} (alike : List.Forall₂ (Token.Alike R) tokens others)
    (ended : Bool) :
    List.Forall₂ (Token.Alike R) (dropClosingCommas ended tokens)
      (dropClosingCommas ended others) := by
  induction alike generalizing ended with
  | nil => exact .nil
  | @cons token other rest more head tail ih =>
    have following : rest.head?.any Token.closes = more.head?.any Token.closes := by
      cases tail with
      | nil => rfl
      | cons next _ => exact next.kind.2.1
    cases head with
    | comma =>
      rw [dropClosingCommas, dropClosingCommas, following]
      split
      · exact ih false
      · exact .cons .comma (ih false)
    | word related => exact .cons (.word related) (ih true)
    | openList mark other => exact .cons (.openList mark other) (ih false)
    | closeList => exact .cons .closeList (ih true)
    | openRecord mark other => exact .cons (.openRecord mark other) (ih false)
    | closeRecord => exact .cons .closeRecord (ih true)
    | colon => exact .cons .colon (ih false)

theorem mem_dropClosingCommas {token : Token μ α} {tokens : List (Token μ α)}
    (member : token ∈ tokens) (other : token ≠ .comma) (ended : Bool) :
    token ∈ dropClosingCommas ended tokens := by
  fun_induction dropClosingCommas ended tokens with
  | case1 => cases member
  | case2 ended rest _ ih => exact ih ((List.mem_cons.1 member).resolve_left other)
  | case3 ended rest _ ih =>
    exact .tail _ (ih ((List.mem_cons.1 member).resolve_left other))
  | case4 ended head rest _ ih =>
    rcases List.mem_cons.1 member with rfl | later
    · exact .head _
    · exact .tail _ (ih later)

namespace Format

variable {format : Format μ α κ τ}

/-- From these states no bracket can be closed that has just been opened. -/
def Settled (state : State μ κ τ) : Prop :=
  (∃ value, state.mode = .after value) ∨ state.mode = .colon

theorem settled_of_begin {frames : List (Frame μ κ τ)} {next : State μ κ τ} {text : α}
    (begun : format.begin frames (.word text) = some next) : Settled next := by
  obtain ⟨value, _, rfl⟩ := Option.map_eq_some_iff.1 begun
  exact .inl ⟨value, rfl⟩

theorem settled_of_readKey {frames : List (Frame μ κ τ)} {next : State μ κ τ} {text : α}
    (read : format.readKey frames text = some next) : Settled next := by
  unfold readKey at read
  split at read
  · obtain ⟨key, _, rfl⟩ := Option.map_eq_some_iff.1 read
    exact .inr rfl
  · cases read

theorem settled_of_step {state next : State μ κ τ} {token : Token μ α}
    (stepped : format.step state token = some next) (ends : token.endsValue = true) :
    Settled next := by
  obtain ⟨frames, mode⟩ := state
  cases token with
  | word text =>
    cases mode with
    | value | valueOrClose => exact settled_of_begin stepped
    | key | keyOrClose => exact settled_of_readKey stepped
    | colon | after => cases stepped
  | closeList =>
    cases mode with
    | valueOrClose | after =>
      simp only [step] at stepped
      split at stepped
      · cases stepped
        exact .inl ⟨_, rfl⟩
      · cases stepped
    | value | key | keyOrClose | colon => cases stepped
  | closeRecord =>
    cases mode with
    | keyOrClose | after =>
      simp only [step] at stepped
      split at stepped
      · cases stepped
        exact .inl ⟨_, rfl⟩
      · cases stepped
    | value | valueOrClose | key | colon => cases stepped
  | openList | openRecord | comma | colon => cases ends

theorem step_comma (closing : format.closingComma = true) {state : State μ κ τ}
    (settled : Settled state) {close : Token μ α} (closes : close.closes = true) :
    (format.step state .comma).bind (format.step · close) = format.step state close := by
  obtain ⟨frames, mode⟩ := state
  have bracket : close = .closeList ∨ close = .closeRecord := by
    cases close <;> simp_all [Token.closes]
  rcases settled with ⟨value, rfl⟩ | rfl
  · match frames with
    | [] => rcases bracket with rfl | rfl <;> rfl
    | .list mark held :: rest =>
      rcases bracket with rfl | rfl <;> simp [step, closing, begin]
    | .record mark held none :: rest => rcases bracket with rfl | rfl <;> rfl
    | .record mark held (some key) :: rest =>
      rcases bracket with rfl | rfl <;> simp [step, closing]
  · rcases bracket with rfl | rfl <;> rfl

theorem run_dropClosingCommas (closing : format.closingComma = true) (tokens : List (Token μ α))
    {state : State μ κ τ} {ended : Bool} (settled : ended = true → Settled state) :
    format.run state (dropClosingCommas ended tokens) = format.run state tokens := by
  fun_induction dropClosingCommas ended tokens generalizing state with
  | case1 => rfl
  | case2 ended rest drops ih =>
    obtain ⟨rfl, next⟩ := Bool.and_eq_true_iff.1 drops
    obtain ⟨close, first, closes⟩ := (Option.any_eq_true ..).1 next
    obtain ⟨more, rfl⟩ := List.head?_eq_some_iff.1 first
    have once : format.run state (.comma :: close :: more) =
        ((format.step state .comma).bind (format.step · close)).bind (format.run · more) := by
      rw [run_cons, Option.bind_assoc]
      rfl
    rw [ih nofun, once, step_comma closing (settled rfl) closes, run_cons]
  | case3 ended rest _ ih =>
    rw [run_cons, run_cons]
    cases stepped : format.step state .comma with
    | none => rfl
    | some next => exact ih nofun
  | case4 ended head rest _ ih =>
    rw [run_cons, run_cons]
    cases stepped : format.step state head with
    | none => rfl
    | some next => exact ih (settled_of_step stepped)

end Format

theorem dropClosingCommas_comma {json : Json} (rest : List (Token Unit Word)) (ended : Bool) :
    dropClosingCommas ended (.comma :: (json.tokens ++ rest)) =
      .comma :: dropClosingCommas false (json.tokens ++ rest) := by
  obtain ⟨first, more, split, noList, noRecord, _⟩ := json.tokens_begin
  have opens : first.closes = false := by
    cases first with
    | closeList => exact absurd rfl noList
    | closeRecord => exact absurd rfl noRecord
    | word | openList | openRecord | comma | colon => rfl
  rw [split, List.cons_append, dropClosingCommas]
  simp [opens]

mutual

theorem dropClosingCommas_tokens : ∀ (json : Json) (ended : Bool) (rest : List (Token Unit Word)),
    dropClosingCommas ended (json.tokens ++ rest) = json.tokens ++ dropClosingCommas true rest
  | .null, _, _ | .bool _, _, _ | .number _, _, _ | .string _, _, _ => rfl
  | .array [], _, _ | .object [], _, _ => rfl
  | .array (item :: more), ended, rest => by
    have first := dropClosingCommas_tokens item false (Json.itemTokens more ++ .closeList :: rest)
    have others := dropClosingCommas_items more (.closeList :: rest)
    simp [Json.tokens, dropClosingCommas, first, others, Token.endsValue, Token.isWord,
      Token.closes]
  | .object ((name, value) :: more), ended, rest => by
    have first :=
      dropClosingCommas_tokens value false (Json.memberTokens more ++ .closeRecord :: rest)
    have others := dropClosingCommas_members more (.closeRecord :: rest)
    simp [Json.tokens, dropClosingCommas, first, others, Token.endsValue, Token.isWord,
      Token.closes]

theorem dropClosingCommas_items : ∀ (items : List Json) (rest : List (Token Unit Word)),
    dropClosingCommas true (Json.itemTokens items ++ rest) =
      Json.itemTokens items ++ dropClosingCommas true rest
  | [], _ => rfl
  | item :: more, rest => by
    have first := dropClosingCommas_tokens item false (Json.itemTokens more ++ rest)
    have others := dropClosingCommas_items more rest
    simp [Json.itemTokens, dropClosingCommas_comma, first, others]

theorem dropClosingCommas_members : ∀ (members : List (String × Json))
    (rest : List (Token Unit Word)),
    dropClosingCommas true (Json.memberTokens members ++ rest) =
      Json.memberTokens members ++ dropClosingCommas true rest
  | [], _ => rfl
  | (name, value) :: more, rest => by
    have first := dropClosingCommas_tokens value false (Json.memberTokens more ++ rest)
    have others := dropClosingCommas_members more rest
    simp [Json.memberTokens, dropClosingCommas, first, others, Token.endsValue, Token.isWord,
      Token.closes]

end

structure Lexeme where
  gap : List Char
  token : Token Unit Word
  chars : List Char

structure Layout where
  lexemes : List Lexeme
  ending : List Char

namespace Layout

def chars (layout : Layout) : List Char :=
  layout.lexemes.flatMap (fun lexeme => lexeme.gap ++ lexeme.chars) ++ layout.ending

def tokens (layout : Layout) : List (Token Unit Word) := layout.lexemes.map (·.token)

end Layout

/-- What may stand in gaps and behind the last token, how words are spelled, and whether a comma
may stand before a closing bracket. -/
structure Script where
  gap : List Char → Prop
  ending : List Char → Prop
  word : Word → List Char → Prop
  closingComma : Bool

namespace Script

def spells (script : Script) : Token Unit Word → List Char → Prop
  | .word word, chars => script.word word chars
  | .openList _, chars => chars = ['[']
  | .closeList, chars => chars = [']']
  | .openRecord _, chars => chars = ['{']
  | .closeRecord, chars => chars = ['}']
  | .comma, chars => chars = [',']
  | .colon, chars => chars = [':']

def Quotes (spells : Char → List Char → Prop) (mark : Char) (text : String) (chars : List Char) :
    Prop :=
  ∃ spellings, List.Forall₂ spells text.toList spellings ∧
    chars = mark :: (spellings.flatten ++ [mark])

/-- Characters in some spelling are read as pieces that are joined to the text again. -/
def InPieces {π ρ σ : Type} (read : List π → List Char → ρ) (join : List Char → List π → σ)
    (text chars : List Char) : Prop :=
  ∃ pieces : List π,
    (∀ done rest, read done (chars ++ rest) = read (pieces.reverse ++ done) rest) ∧
    ∀ done more, join done (pieces ++ more) = join (text.reverse ++ done) more

theorem inPieces_of_spellings {π ρ σ : Type} {read : List π → List Char → ρ}
    {join : List Char → List π → σ} {spells : Char → List Char → Prop}
    (each : ∀ {c chars}, spells c chars → InPieces read join [c] chars) {text : List Char}
    {spellings : List (List Char)} (spelled : List.Forall₂ spells text spellings) :
    InPieces read join text spellings.flatten := by
  induction spelled with
  | nil => exact ⟨[], fun _ _ => rfl, fun _ _ => rfl⟩
  | @cons c chars text spellings head _ ih =>
    obtain ⟨first, readFirst, joinFirst⟩ := each head
    obtain ⟨pieces, readRest, joinRest⟩ := ih
    refine ⟨first ++ pieces, fun done rest => ?_, fun done more => ?_⟩
    · rw [List.flatten_cons, List.append_assoc, readFirst, readRest]
      simp
    · rw [List.append_assoc, joinFirst, joinRest]
      simp

def wordOf (name string : String → List Char → Prop) : Word → List Char → Prop
  | .name text, chars => name text chars
  | .atom (.string text), chars => string text chars
  | .atom .null, chars => chars = "null".toList
  | .atom (.bool true), chars => chars = "true".toList
  | .atom (.bool false), chars => chars = "false".toList
  | .atom (.number text), chars => chars = text.toList
  | .atom (.array _), _ | .atom (.object _), _ => False

/-- A text that no word before it goes on into. -/
def Parts (script : Script) (text : List Char) : Prop :=
  script.ending text ∨
    ∃ gap, script.gap gap ∧
      ∃ mark ∈ ['[', ']', '{', '}', ',', ':'], ∃ rest, text = gap ++ mark :: rest

theorem Parts.head {script : Script} {text : List Char} (parts : script.Parts text)
    {p : Char → Bool}
    (gaps : ∀ c rest, script.gap (c :: rest) ∨ script.ending (c :: rest) → p c = false)
    (marks : ['[', ']', '{', '}', ',', ':'].all (!p ·) = true) : ∀ c ∈ text.head?, p c = false := by
  rcases parts with ended | ⟨gap, blank, mark, listed, rest, rfl⟩
  · intro c first
    obtain ⟨more, rfl⟩ := List.head?_eq_some_iff.1 first
    exact gaps c more (.inr ended)
  · intro c first
    cases gap with
    | nil =>
      cases first
      simpa using List.all_eq_true.1 marks _ listed
    | cons head more =>
      cases first
      exact gaps _ more (.inl blank)

/-- What no gap begins with and no mark is goes on as far as the word before the gap. -/
theorem Parts.span {script : Script} {text : List Char} (parts : script.Parts text)
    {p : Char → Bool}
    (gaps : ∀ c rest, script.gap (c :: rest) ∨ script.ending (c :: rest) → p c = false)
    (marks : ['[', ']', '{', '}', ',', ':'].all (!p ·) = true) {word : List Char}
    (all : ∀ c ∈ word, p c = true) :
    (word ++ text).takeWhile p = word ∧ (word ++ text).dropWhile p = text := by
  have stop := parts.head gaps marks
  rw [List.takeWhile_append_of_pos all, List.dropWhile_append_of_pos all]
  cases text with
  | nil => simp
  | cons c rest =>
    have := stop c rfl
    simp [this]

structure ReadBy (script : Script)
    (read : List (Token μ α) → List Char → Option (List (Token μ α))) (readable : Word → Prop)
    (stands : Word → α → Prop) : Prop where
  finish : ∀ done {ending}, script.ending ending → read done ending = some done.reverse
  next : ∀ done rest {gap token chars}, script.gap gap → script.spells token chars →
    (∀ word, token = .word word → readable word ∧ script.Parts rest) →
    ∃ found, Token.Alike stands token found ∧
      read done (gap ++ (chars ++ rest)) = read (found :: done) rest

theorem parts_of_spells (script : Script) {gap chars : List Char} {token : Token Unit Word}
    (blank : script.gap gap) (spelled : script.spells token chars) (noWord : token.isWord = false)
    (rest : List Char) : script.Parts (gap ++ (chars ++ rest)) := by
  refine .inr ⟨gap, blank, ?_⟩
  cases token with
  | word => cases noWord
  | openList | closeList | openRecord | closeRecord | comma | colon =>
    cases spelled
    exact ⟨_, by simp, rest, rfl⟩

end Script

def Apart (tokens : List (Token μ α)) : Prop :=
  tokens.IsChain fun token next => token.isWord = true → next.isWord = false

theorem apart_of_dropClosingCommas {tokens : List (Token μ α)} {ended : Bool}
    (apart : Apart (dropClosingCommas ended tokens)) : Apart tokens := by
  fun_induction dropClosingCommas ended tokens with
  | case1 => exact .nil
  | case2 ended rest _ ih => exact List.isChain_cons.2 ⟨nofun, ih apart⟩
  | case3 ended rest _ ih => exact List.isChain_cons.2 ⟨nofun, ih (List.isChain_cons.1 apart).2⟩
  | case4 ended head rest _ ih =>
    obtain ⟨next, later⟩ := List.isChain_cons.1 apart
    refine List.isChain_cons.2 ⟨?_, ih later⟩
    intro token first isWord
    obtain ⟨more, rfl⟩ := List.head?_eq_some_iff.1 first
    cases token with
    | comma => rfl
    | word | openList | closeList | openRecord | closeRecord | colon =>
      exact next _ (by simp [dropClosingCommas]) isWord

theorem apart_cons {token : Token μ α} {rest : List (Token μ α)} (noWord : token.isWord = false)
    (apart : Apart rest) : Apart (token :: rest) :=
  List.isChain_cons.2 ⟨fun _ _ isWord => absurd isWord (by simp [noWord]), apart⟩

theorem apart_word {text : α} {token : Token μ α} {rest : List (Token μ α)}
    (noWord : token.isWord = false) (apart : Apart (token :: rest)) :
    Apart (.word text :: token :: rest) :=
  List.isChain_cons_cons.2 ⟨fun _ => noWord, apart⟩

/-- Behind a document something other than a word can follow. -/
def Closed (json : Json) : Prop :=
  ∀ {token : Token Unit Word} {rest : List (Token Unit Word)}, token.isWord = false →
    Apart (token :: rest) → Apart (json.tokens ++ token :: rest)

theorem apart_items {items : List Json} (closed : ∀ item ∈ items, Closed item)
    {token : Token Unit Word} {rest : List (Token Unit Word)} (noWord : token.isWord = false)
    (apart : Apart (token :: rest)) :
    ∃ first more, Json.itemTokens items ++ token :: rest = first :: more ∧
      first.isWord = false ∧ Apart (first :: more) := by
  induction items with
  | nil => exact ⟨token, rest, rfl, noWord, apart⟩
  | cons item others ih =>
    obtain ⟨first, more, split, next, later⟩ := ih fun other inside => closed other (.tail _ inside)
    refine ⟨.comma, item.tokens ++ first :: more, ?_, rfl,
      apart_cons rfl (closed item (.head _) next later)⟩
    rw [Json.itemTokens, ← split]
    simp

theorem apart_members {members : List (String × Json)}
    (closed : ∀ member ∈ members, Closed member.2)
    {token : Token Unit Word} {rest : List (Token Unit Word)} (noWord : token.isWord = false)
    (apart : Apart (token :: rest)) :
    ∃ first more, Json.memberTokens members ++ token :: rest = first :: more ∧
      first.isWord = false ∧ Apart (first :: more) := by
  induction members with
  | nil => exact ⟨token, rest, rfl, noWord, apart⟩
  | cons member others ih =>
    obtain ⟨name, value⟩ := member
    obtain ⟨first, more, split, next, later⟩ := ih fun other inside => closed other (.tail _ inside)
    have inside : Apart (.colon :: (value.tokens ++ first :: more)) :=
      apart_cons rfl (closed (name, value) (.head _) next later)
    refine ⟨.comma, .word (.name name) :: .colon :: value.tokens ++ first :: more, ?_, rfl,
      apart_cons rfl (apart_word rfl inside)⟩
    rw [Json.memberTokens, ← split]
    simp

theorem closed_document (json : Json) : Closed json := by
  induction json using Json.inside with
  | atom json atom =>
    intro token rest noWord apart
    rw [Json.tokens_of_isAtom atom]
    exact apart_word noWord apart
  | array items ih =>
    intro token rest noWord apart
    have bracket : Apart (.closeList :: token :: rest) := apart_cons rfl apart
    cases items with
    | nil => simpa [Json.tokens] using apart_cons rfl bracket
    | cons item more =>
      obtain ⟨first, others, split, next, later⟩ :=
        apart_items (fun other inside => ih other (.tail _ inside)) rfl bracket
      have inside := ih item (.head _) next later
      rw [← split] at inside
      simpa [Json.tokens] using apart_cons rfl inside
  | object members ih =>
    intro token rest noWord apart
    have bracket : Apart (.closeRecord :: token :: rest) := apart_cons rfl apart
    cases members with
    | nil => simpa [Json.tokens] using apart_cons rfl bracket
    | cons member more =>
      obtain ⟨name, value⟩ := member
      obtain ⟨first, others, split, next, later⟩ :=
        apart_members (fun other inside => ih other (.tail _ inside)) rfl bracket
      have inside : Apart (.colon :: (value.tokens ++ first :: others)) :=
        apart_cons rfl (ih (name, value) (.head _) next later)
      rw [← split] at inside
      simpa [Json.tokens] using apart_cons rfl (apart_word rfl inside)

theorem tokens_apart (json : Json) : Apart json.tokens :=
  (List.isChain_append.1 (@closed_document json .comma [] rfl (.singleton _))).1

section

variable {script : Script} {read : List (Token μ α) → List Char → Option (List (Token μ α))}
  {readable : Word → Prop} {stands : Word → α → Prop} {lexemes : List Lexeme} {ending : List Char}

theorem parts_of_lexemes
    (written : ∀ lexeme ∈ lexemes, script.gap lexeme.gap ∧ script.spells lexeme.token lexeme.chars)
    (ended : script.ending ending)
    (following : ∀ next ∈ (lexemes.map (·.token)).head?, next.isWord = false) :
    script.Parts (Layout.chars ⟨lexemes, ending⟩) := by
  cases lexemes with
  | nil => exact .inl ended
  | cons next more =>
    obtain ⟨blank, spelled⟩ := written next (.head _)
    have parts := script.parts_of_spells blank spelled (following _ rfl)
      (Layout.chars ⟨more, ending⟩)
    simpa [Layout.chars] using parts

theorem Layout.chars_cons (lexeme : Lexeme) (rest : List Lexeme) (ending : List Char) :
    Layout.chars ⟨lexeme :: rest, ending⟩ =
      lexeme.gap ++ (lexeme.chars ++ Layout.chars ⟨rest, ending⟩) := by
  simp [Layout.chars]

theorem Script.ReadBy.read_lexemes (readBy : script.ReadBy read readable stands)
    (written : ∀ lexeme ∈ lexemes, script.gap lexeme.gap ∧ script.spells lexeme.token lexeme.chars)
    (ended : script.ending ending) (apart : Apart (lexemes.map (·.token)))
    (known : ∀ word, .word word ∈ lexemes.map (·.token) → readable word)
    (done : List (Token μ α)) :
    ∃ found, List.Forall₂ (Token.Alike stands) (lexemes.map (·.token)) found ∧
      read done (Layout.chars ⟨lexemes, ending⟩) = some (done.reverse ++ found) := by
  induction lexemes generalizing done with
  | nil => exact ⟨[], .nil, (readBy.finish done ended).trans (by simp)⟩
  | cons lexeme rest ih =>
    obtain ⟨blank, spelled⟩ := written lexeme (.head _)
    obtain ⟨following, later⟩ := List.isChain_cons.1 apart
    have behind := fun other inside => written other (.tail _ inside)
    obtain ⟨found, alike, first⟩ := readBy.next done (Layout.chars ⟨rest, ending⟩) blank spelled
      fun word same => ⟨known word (by simp [same]), parts_of_lexemes behind ended
        fun next first => following next first (by simp [same, Token.isWord])⟩
    obtain ⟨more, alikes, reads⟩ := ih behind later
      (fun word inside => known word (.tail _ inside)) (found :: done)
    refine ⟨found :: more, .cons alike alikes, ?_⟩
    rw [Layout.chars_cons, first, reads]
    simp

/-- A reader that gets stuck at some words does not read a text in which one of them stands. -/
theorem Script.ReadBy.stuck (readBy : script.ReadBy read readable stands) {blocks : Word → Prop}
    (stuck : ∀ done rest {gap word chars}, script.gap gap → script.word word chars → blocks word →
      read done (gap ++ (chars ++ rest)) = none)
    (written : ∀ lexeme ∈ lexemes, script.gap lexeme.gap ∧ script.spells lexeme.token lexeme.chars)
    (ended : script.ending ending) (apart : Apart (lexemes.map (·.token)))
    (known : ∀ word, .word word ∈ lexemes.map (·.token) → readable word ∨ blocks word)
    {blocked : Word} (member : .word blocked ∈ lexemes.map (·.token)) (blocking : blocks blocked)
    (done : List (Token μ α)) : read done (Layout.chars ⟨lexemes, ending⟩) = none := by
  induction lexemes generalizing done with
  | nil => cases member
  | cons lexeme rest ih =>
    obtain ⟨blank, spelled⟩ := written lexeme (.head _)
    obtain ⟨following, later⟩ := List.isChain_cons.1 apart
    have behind := fun other inside => written other (.tail _ inside)
    rw [Layout.chars_cons]
    by_cases here : ∃ word, lexeme.token = .word word ∧ blocks word
    · obtain ⟨word, same, blocks⟩ := here
      rw [same] at spelled
      exact stuck done _ blank spelled blocks
    · obtain ⟨found, _, reads⟩ := readBy.next done (Layout.chars ⟨rest, ending⟩) blank spelled
        fun word same => ⟨(known word (by simp [same])).resolve_right fun blocks =>
          here ⟨word, same, blocks⟩, parts_of_lexemes behind ended
            fun next first => following next first (by simp [same, Token.isWord])⟩
      have later := ih behind later (fun word inside => known word (.tail _ inside))
        ((List.mem_cons.1 member).resolve_left fun same => here ⟨blocked, same.symm, blocking⟩)
        (found :: done)
      rw [reads, later]

end

structure Layout.Writes (script : Script) (layout : Layout) (json : Json) : Prop where
  tokens : (if script.closingComma then dropClosingCommas false layout.tokens else layout.tokens) =
    json.tokens
  lexemes : ∀ lexeme ∈ layout.lexemes,
    script.gap lexeme.gap ∧ script.spells lexeme.token lexeme.chars
  ending : script.ending layout.ending

theorem Layout.Writes.tokens_alike {script : Script} {layout : Layout} {json : Json}
    (writes : layout.Writes script json) :
    Apart layout.tokens ∧ ∀ word, .word word ∈ layout.tokens → .word word ∈ json.tokens := by
  have same := writes.tokens
  split at same
  · rw [← same]
    exact ⟨apart_of_dropClosingCommas (same ▸ tokens_apart json),
      fun word member => mem_dropClosingCommas member nofun false⟩
  · rw [same]
    exact ⟨tokens_apart json, fun _ => id⟩

/-- What a layout of a document is read as stands for the document. -/
theorem Layout.Writes.read {script : Script} {layout : Layout} {json : Json}
    (writes : layout.Writes script json)
    {read : List (Token μ α) → List Char → Option (List (Token μ α))} {readable : Word → Prop}
    {stands : Word → α → Prop} (readBy : script.ReadBy read readable stands)
    {format : Format μ α κ τ} {named : String → κ → Prop} {means : Json → τ → Prop}
    (takes : format.Takes stands named means)
    (commas : script.closingComma = true → format.closingComma = true)
    (known : json.AllWords readable)
    (room : ∀ limit ∈ format.depth, json.depth ≤ limit) :
    ∃ value, (read [] layout.chars).bind format.read = some value ∧ means json value := by
  obtain ⟨apart, words⟩ := writes.tokens_alike
  obtain ⟨found, alike, reads⟩ := readBy.read_lexemes writes.lexemes writes.ending apart
    (fun word member => known word (words word member)) []
  have tokens := writes.tokens
  rw [show read [] layout.chars = some found from reads, Option.bind_some]
  split at tokens
  case isTrue closing =>
    have dropped := dropClosingCommas_alike alike false
    obtain ⟨value, taken, meaning⟩ := takes.read (tokens ▸ dropped) room
    have same : format.run start (dropClosingCommas false found) = format.run start found :=
      Format.run_dropClosingCommas (commas closing) found nofun
    rw [Format.read, same] at taken
    exact ⟨value, taken, meaning⟩
  case isFalse =>
    exact takes.read (tokens ▸ alike) room

end CloudAudit.Outline
