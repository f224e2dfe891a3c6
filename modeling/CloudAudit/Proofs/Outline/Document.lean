import CloudAudit.Json.Value
import CloudAudit.Outline
import Mathlib.Data.List.Forall2

/-! Documents as tokens. A format that takes names and atoms for what they stand for takes the
tokens of a whole document for what the document stands for, as deep as it has room. -/
namespace CloudAudit

namespace Json

def isAtom : Json → Bool
  | .array _ | .object _ => false
  | _ => true

/-- Arrays and objects by what is inside them, all other values by themselves. -/
@[elab_as_elim]
theorem inside {P : Json → Prop} (atom : ∀ json, json.isAtom = true → P json)
    (array : ∀ items, (∀ item ∈ items, P item) → P (.array items))
    (object : ∀ members, (∀ member ∈ members, P member.2) → P (.object members)) :
    ∀ json, P json
  | .array items => array items fun item _ => inside atom array object item
  | .object members => object members fun member _ => inside atom array object member.2
  | .null => atom .null rfl
  | .bool value => atom (.bool value) rfl
  | .number text => atom (.number text) rfl
  | .string text => atom (.string text) rfl
termination_by json => sizeOf json
decreasing_by
  · have := List.sizeOf_lt_of_mem ‹item ∈ items›
    simp only [Json.array.sizeOf_spec]
    omega
  · have := List.sizeOf_lt_of_mem ‹member ∈ members›
    have : sizeOf member.2 < sizeOf member := by
      cases member
      simp only [Prod.mk.sizeOf_spec]
      omega
    simp only [Json.object.sizeOf_spec]
    omega

inductive Word where
  | name (text : String)
  | atom (value : Json)

mutual

def tokens : Json → List (Outline.Token Unit Word)
  | .array [] => [.openList (), .closeList]
  | .array (item :: rest) => .openList () :: (item.tokens ++ itemTokens rest) ++ [.closeList]
  | .object [] => [.openRecord (), .closeRecord]
  | .object ((name, value) :: rest) =>
    .openRecord () :: (.word (.name name) :: .colon :: value.tokens ++ memberTokens rest) ++
      [.closeRecord]
  | value => [.word (.atom value)]

def itemTokens : List Json → List (Outline.Token Unit Word)
  | [] => []
  | item :: rest => .comma :: item.tokens ++ itemTokens rest

def memberTokens : List (String × Json) → List (Outline.Token Unit Word)
  | [] => []
  | (name, value) :: rest =>
    .comma :: .word (.name name) :: .colon :: value.tokens ++ memberTokens rest

end

mutual

def depth : Json → Nat
  | .array items => itemDepth items + 1
  | .object members => memberDepth members + 1
  | _ => 0

def itemDepth : List Json → Nat
  | [] => 0
  | item :: rest => max item.depth (itemDepth rest)

def memberDepth : List (String × Json) → Nat
  | [] => 0
  | (_, value) :: rest => max value.depth (memberDepth rest)

end

theorem tokens_of_isAtom {json : Json} (atom : json.isAtom = true) :
    json.tokens = [.word (.atom json)] := by
  cases json with
  | array | object => cases atom
  | null | bool | number | string => simp [tokens]

theorem tokens_begin (json : Json) :
    ∃ first more, json.tokens = first :: more ∧
      first ≠ .closeList ∧ first ≠ .closeRecord ∧ first ≠ .comma := by
  unfold tokens
  split <;> exact ⟨_, _, rfl, nofun, nofun, nofun⟩

def AllWords (P : Word → Prop) (json : Json) : Prop :=
  ∀ word, .word word ∈ json.tokens → P word

instance (P : Word → Prop) [DecidablePred P] (json : Json) : Decidable (json.AllWords P) :=
  decidable_of_iff (json.tokens.all fun | .word word => decide (P word) | _ => true) <| by
    rw [List.all_eq_true]
    constructor
    · exact fun each word inside => of_decide_eq_true (each (.word word) inside)
    · intro each token inside
      cases token with
      | word word => exact decide_eq_true (each word inside)
      | openList | openRecord | closeList | closeRecord | comma | colon => rfl

theorem word_mem_itemTokens {word : Word} {items : List Json} :
    .word word ∈ itemTokens items ↔ ∃ item ∈ items, .word word ∈ item.tokens := by
  induction items with
  | nil => simp [itemTokens]
  | cons item rest ih => simp [itemTokens, ih]

theorem word_mem_memberTokens {word : Word} {members : List (String × Json)} :
    .word word ∈ memberTokens members ↔
      ∃ member ∈ members, word = .name member.1 ∨ .word word ∈ member.2.tokens := by
  induction members with
  | nil => simp [memberTokens]
  | cons member rest ih => simp [memberTokens, ih, or_assoc]

theorem word_mem_array {word : Word} {items : List Json} :
    .word word ∈ (array items).tokens ↔ ∃ item ∈ items, .word word ∈ item.tokens := by
  cases items with
  | nil => simp [tokens]
  | cons item rest => simp [tokens, word_mem_itemTokens]

theorem word_mem_object {word : Word} {members : List (String × Json)} :
    .word word ∈ (object members).tokens ↔
      ∃ member ∈ members, word = .name member.1 ∨ .word word ∈ member.2.tokens := by
  cases members with
  | nil => simp [tokens]
  | cons member rest => simp [tokens, word_mem_memberTokens, or_assoc]

section

variable {P : Word → Prop}

theorem allWords_of_isAtom {json : Json} (atom : json.isAtom = true) :
    json.AllWords P ↔ P (.atom json) := by
  rw [AllWords, tokens_of_isAtom atom]
  simp

theorem allWords_array {items : List Json} :
    (array items).AllWords P ↔ ∀ item ∈ items, item.AllWords P := by
  simp only [AllWords, word_mem_array]
  constructor
  · exact fun all item inside word member => all word ⟨item, inside, member⟩
  · rintro all word ⟨item, inside, member⟩
    exact all item inside word member

theorem allWords_object {members : List (String × Json)} :
    (object members).AllWords P ↔
      ∀ member ∈ members, P (.name member.1) ∧ member.2.AllWords P := by
  simp only [AllWords, word_mem_object]
  constructor
  · exact fun all member inside =>
      ⟨all _ ⟨member, inside, .inl rfl⟩, fun word within => all word ⟨member, inside, .inr within⟩⟩
  · rintro all word ⟨member, inside, rfl | within⟩
    · exact (all member inside).1
    · exact (all member inside).2 word within

end

end Json

namespace Outline

variable {μ ν α β κ τ : Type}

/-- Tokens of one kind, whatever their marks, with related words. -/
inductive Token.Alike (R : α → β → Prop) : Token μ α → Token ν β → Prop
  | word {text : α} {other : β} (related : R text other) : Alike R (.word text) (.word other)
  | openList (mark : μ) (other : ν) : Alike R (.openList mark) (.openList other)
  | closeList : Alike R .closeList .closeList
  | openRecord (mark : μ) (other : ν) : Alike R (.openRecord mark) (.openRecord other)
  | closeRecord : Alike R .closeRecord .closeRecord
  | comma : Alike R .comma .comma
  | colon : Alike R .colon .colon

theorem forall₂_append_left {R : α → β → Prop} {left right : List α} {all : List β}
    (related : List.Forall₂ R (left ++ right) all) :
    ∃ first second, all = first ++ second ∧ List.Forall₂ R left first ∧
      List.Forall₂ R right second := by
  induction left generalizing all with
  | nil => exact ⟨[], all, rfl, .nil, related⟩
  | cons a rest ih =>
    obtain ⟨b, more, head, tail, rfl⟩ := List.forall₂_cons_left_iff.1 related
    obtain ⟨first, second, rfl, before, after⟩ := ih tail
    exact ⟨b :: first, second, rfl, .cons head before, after⟩

theorem forall₂_between {R : α → β → Prop} {a b : α} {body : List α} {all : List β}
    (related : List.Forall₂ R (a :: body ++ [b]) all) :
    ∃ first inner last, all = first :: inner ++ [last] ∧ R a first ∧ List.Forall₂ R body inner ∧
      R b last := by
  rw [List.cons_append] at related
  obtain ⟨first, tail, opens, behind, rfl⟩ := List.forall₂_cons_left_iff.1 related
  obtain ⟨inner, ending, rfl, inside, closed⟩ := forall₂_append_left behind
  obtain ⟨last, none, closes, ends, rfl⟩ := List.forall₂_cons_left_iff.1 closed
  cases ends
  exact ⟨first, inner, last, rfl, opens, inside, closes⟩

namespace Format

theorem run_cons (format : Format μ α κ τ) (state : State μ κ τ) (token : Token μ α)
    (rest : List (Token μ α)) :
    format.run state (token :: rest) = (format.step state token).bind (format.run · rest) := rfl

/-- A format takes words for what they stand for and builds what lists and records stand for. -/
structure Takes (format : Format μ α κ τ) (stands : Json.Word → α → Prop)
    (named : String → κ → Prop) (means : Json → τ → Prop) : Prop where
  key : ∀ {name word}, stands (.name name) word →
    ∃ key, format.key word = some key ∧ named name key
  value : ∀ {json word}, stands (.atom json) word →
    ∃ value, format.value word = some value ∧ means json value
  list : ∀ {items values} (mark : μ), List.Forall₂ means items values →
    means (.array items) (format.list mark values)
  record : ∀ {members pairs} (mark : μ),
    List.Forall₂ (fun member pair => named member.1 pair.1 ∧ means member.2 pair.2) members pairs →
    means (.object members) (format.record mark pairs)

def HasRoom (format : Format μ α κ τ) (height inner : Nat) : Prop :=
  ∀ limit ∈ format.depth, height + inner ≤ limit

/-- From where a value is due, the tokens of the document lead to behind a value it stands for. -/
def Runs (format : Format μ α κ τ) (stands : Json.Word → α → Prop) (means : Json → τ → Prop)
    (json : Json) : Prop :=
  ∀ {tokens : List (Token μ α)} {frames : List (Frame μ κ τ)} (rest : List (Token μ α)),
    List.Forall₂ (Token.Alike stands) json.tokens tokens →
    format.HasRoom frames.length json.depth →
    ∃ value, means json value ∧
      format.run ⟨frames, .value⟩ (tokens ++ rest) = format.run ⟨frames, .after value⟩ rest

variable {format : Format μ α κ τ} {stands : Json.Word → α → Prop} {named : String → κ → Prop}
  {means : Json → τ → Prop}

theorem HasRoom.left {height one other : Nat} (room : format.HasRoom height (max one other)) :
    format.HasRoom height one :=
  fun limit bound => Nat.le_trans (Nat.add_le_add_left (Nat.le_max_left ..) _) (room limit bound)

theorem HasRoom.right {height one other : Nat} (room : format.HasRoom height (max one other)) :
    format.HasRoom height other :=
  fun limit bound => Nat.le_trans (Nat.add_le_add_left (Nat.le_max_right ..) _) (room limit bound)

theorem HasRoom.inside {height inner : Nat} (room : format.HasRoom height (inner + 1)) :
    format.HasRoom (height + 1) inner := by
  intro limit bound
  have := room limit bound
  omega

theorem begins_of_alike {json : Json} {tokens : List (Token μ α)}
    (alike : List.Forall₂ (Token.Alike stands) json.tokens tokens) :
    ∃ token rest, tokens = token :: rest ∧ token ≠ .closeList := by
  obtain ⟨first, more, split, opens, _⟩ := json.tokens_begin
  rw [split] at alike
  obtain ⟨token, rest, head, _, rfl⟩ := List.forall₂_cons_left_iff.1 alike
  refine ⟨token, rest, rfl, ?_⟩
  rintro rfl
  cases head
  exact opens rfl

/-- Where a list may be closed a value is taken all the same. -/
theorem run_valueOrClose {json : Json} {tokens : List (Token μ α)}
    (alike : List.Forall₂ (Token.Alike stands) json.tokens tokens) (frames : List (Frame μ κ τ))
    (rest : List (Token μ α)) :
    format.run ⟨frames, .valueOrClose⟩ (tokens ++ rest) =
      format.run ⟨frames, .value⟩ (tokens ++ rest) := by
  obtain ⟨token, more, rfl, opens⟩ := begins_of_alike alike
  have same : format.step ⟨frames, .valueOrClose⟩ token = format.step ⟨frames, .value⟩ token := by
    cases token with
    | closeList => exact absurd rfl opens
    | word | openList | openRecord | closeRecord | comma | colon => rfl
  rw [List.cons_append, run_cons, run_cons, same]

theorem run_items {items : List Json}
    (runs : ∀ item ∈ items, format.Runs stands means item) {tokens : List (Token μ α)}
    (alike : List.Forall₂ (Token.Alike stands) (Json.itemTokens items) tokens)
    (frames : List (Frame μ κ τ)) (mark : μ)
    (room : format.HasRoom (frames.length + 1) (Json.itemDepth items))
    (held : List τ) (value : τ) (rest : List (Token μ α)) :
    ∃ values, List.Forall₂ means items values ∧
      format.run ⟨.list mark held :: frames, .after value⟩ (tokens ++ .closeList :: rest) =
        format.run ⟨frames, .after (format.list mark (held.reverse ++ value :: values))⟩ rest := by
  induction items generalizing tokens held value with
  | nil =>
    rw [Json.itemTokens, List.forall₂_nil_left_iff] at alike
    refine ⟨[], .nil, ?_⟩
    rw [alike, List.nil_append, run_cons, ← List.reverse_cons]
    rfl
  | cons item more ih =>
    rw [Json.itemTokens, List.cons_append] at alike
    obtain ⟨separator, behind, isComma, further, rfl⟩ := List.forall₂_cons_left_iff.1 alike
    obtain ⟨first, second, rfl, itself, others⟩ := forall₂_append_left further
    cases isComma
    rw [Json.itemDepth] at room
    obtain ⟨next, meaning, ran⟩ :=
      @runs item (.head _) first (.list mark (value :: held) :: frames)
        (second ++ .closeList :: rest) itself room.left
    obtain ⟨values, meanings, closed⟩ := ih (fun other inside => runs other (.tail _ inside)) others
      room.right (value :: held) next
    refine ⟨next :: values, .cons meaning meanings, ?_⟩
    have afterComma : format.step ⟨.list mark held :: frames, .after value⟩ .comma =
        some ⟨.list mark (value :: held) :: frames,
          if format.closingComma then .valueOrClose else .value⟩ := rfl
    rw [List.cons_append, run_cons, afterComma, Option.bind_some, List.append_assoc]
    -- a format with closing commas could close the list here, but an item is no bracket
    have due : format.run ⟨.list mark (value :: held) :: frames,
          if format.closingComma then .valueOrClose else .value⟩
          (first ++ (second ++ .closeList :: rest)) =
        format.run ⟨.list mark (value :: held) :: frames, .value⟩
          (first ++ (second ++ .closeList :: rest)) := by
      split
      · exact run_valueOrClose itself _ _
      · rfl
    rw [due, ran, closed]
    simp

theorem Takes.run_member (takes : format.Takes stands named means) {name : String} {json : Json}
    (runs : format.Runs stands means json) {tokens : List (Token μ α)}
    (alike : List.Forall₂ (Token.Alike stands) (.word (.name name) :: .colon :: json.tokens) tokens)
    (frames : List (Frame μ κ τ)) (mark : μ)
    (room : format.HasRoom (frames.length + 1) json.depth)
    (held : List (κ × τ)) (before : Option κ) {mode : Mode τ}
    (due : mode = .key ∨ mode = .keyOrClose)
    (rest : List (Token μ α)) :
    ∃ key value, named name key ∧ means json value ∧
      format.run ⟨.record mark held before :: frames, mode⟩ (tokens ++ rest) =
        format.run ⟨.record mark held (some key) :: frames, .after value⟩ rest := by
  obtain ⟨first, tail, isWord, coloned, rfl⟩ := List.forall₂_cons_left_iff.1 alike
  obtain ⟨separator, valueTokens, isColon, itself, rfl⟩ := List.forall₂_cons_left_iff.1 coloned
  cases isColon
  cases isWord with
  | @word _ word related =>
  obtain ⟨key, keyRead, isNamed⟩ := takes.key related
  obtain ⟨value, meaning, ran⟩ := @runs _ (.record mark held (some key) :: frames) rest itself room
  refine ⟨key, value, isNamed, meaning, ?_⟩
  have asKey : format.step ⟨.record mark held before :: frames, mode⟩ (.word word) =
      some ⟨.record mark held (some key) :: frames, .colon⟩ := by
    have read : format.readKey (.record mark held before :: frames) word =
        some ⟨.record mark held (some key) :: frames, .colon⟩ := by
      rw [readKey, keyRead]
      rfl
    rcases due with rfl | rfl <;> exact read
  rw [List.cons_append, List.cons_append, run_cons, asKey, Option.bind_some, run_cons, ← ran]
  rfl

theorem Takes.run_members (takes : format.Takes stands named means)
    {members : List (String × Json)}
    (runs : ∀ member ∈ members, format.Runs stands means member.2) {tokens : List (Token μ α)}
    (alike : List.Forall₂ (Token.Alike stands) (Json.memberTokens members) tokens)
    (frames : List (Frame μ κ τ)) (mark : μ)
    (room : format.HasRoom (frames.length + 1) (Json.memberDepth members))
    (held : List (κ × τ)) (key : κ) (value : τ) (rest : List (Token μ α)) :
    ∃ pairs, List.Forall₂ (fun member pair => named member.1 pair.1 ∧ means member.2 pair.2)
        members pairs ∧
      format.run ⟨.record mark held (some key) :: frames, .after value⟩
          (tokens ++ .closeRecord :: rest) =
        format.run ⟨frames, .after (format.record mark (held.reverse ++ (key, value) :: pairs))⟩
          rest := by
  induction members generalizing tokens held key value with
  | nil =>
    rw [Json.memberTokens, List.forall₂_nil_left_iff] at alike
    refine ⟨[], .nil, ?_⟩
    rw [alike, List.nil_append, run_cons, ← List.reverse_cons]
    rfl
  | cons member more ih =>
    obtain ⟨name, json⟩ := member
    rw [Json.memberTokens, List.cons_append] at alike
    obtain ⟨separator, behind, isComma, further, rfl⟩ := List.forall₂_cons_left_iff.1 alike
    obtain ⟨first, second, rfl, itself, others⟩ := forall₂_append_left further
    cases isComma
    rw [Json.memberDepth] at room
    have due : (if format.closingComma then .keyOrClose else .key : Mode τ) = .key ∨
        (if format.closingComma then .keyOrClose else .key : Mode τ) = .keyOrClose := by
      split
      · exact .inr rfl
      · exact .inl rfl
    obtain ⟨nextKey, next, isNamed, meaning, ran⟩ :=
      takes.run_member (runs (name, json) (.head _)) itself frames mark room.left
        ((key, value) :: held) none due (second ++ .closeRecord :: rest)
    obtain ⟨pairs, meanings, closed⟩ := ih (fun other inside => runs other (.tail _ inside)) others
      room.right ((key, value) :: held) nextKey next
    refine ⟨(nextKey, next) :: pairs, .cons ⟨isNamed, meaning⟩ meanings, ?_⟩
    have afterComma : format.step ⟨.record mark held (some key) :: frames, .after value⟩ .comma =
        some ⟨.record mark ((key, value) :: held) none :: frames,
          if format.closingComma then .keyOrClose else .key⟩ := rfl
    rw [List.cons_append, run_cons, afterComma, Option.bind_some, List.append_assoc, ran, closed]
    simp

theorem begin_open {frames : List (Frame μ κ τ)} {inner : Nat}
    (room : format.HasRoom frames.length (inner + 1)) (mark : μ) :
    format.begin frames (.openList mark) = some ⟨.list mark [] :: frames, .valueOrClose⟩ ∧
      format.begin frames (.openRecord mark) =
        some ⟨.record mark [] none :: frames, .keyOrClose⟩ := by
  have some : format.roomFor frames = true := by
    rw [roomFor, Option.all_eq_true]
    intro limit bound
    have := room limit bound
    exact decide_eq_true (by omega)
  exact ⟨if_pos some, if_pos some⟩

theorem Takes.runs_array (takes : format.Takes stands named means) {items : List Json}
    (runs : ∀ item ∈ items, format.Runs stands means item) :
    format.Runs stands means (.array items) := by
  intro tokens frames rest alike room
  rw [Json.depth] at room
  have opened : ∀ mark, format.step ⟨frames, .value⟩ (.openList mark) = _ :=
    fun mark => (begin_open room mark).1
  cases items with
  | nil =>
    have between : List.Forall₂ (Token.Alike stands) (.openList () :: [] ++ [.closeList]) tokens :=
      by rwa [Json.tokens] at alike
    obtain ⟨_, inner, _, rfl, opens, inside, closes⟩ := forall₂_between between
    cases inside
    cases closes
    cases opens with
    | openList _ mark =>
    refine ⟨format.list mark [], takes.list mark .nil, ?_⟩
    rw [List.cons_append, List.cons_append, run_cons, opened]
    rfl
  | cons item more =>
    rw [Json.tokens] at alike
    obtain ⟨_, inner, _, rfl, opens, inside, closes⟩ := forall₂_between alike
    obtain ⟨first, second, rfl, itself, others⟩ := forall₂_append_left inside
    cases closes
    cases opens with
    | openList _ mark =>
    rw [Json.itemDepth] at room
    obtain ⟨value, meaning, ran⟩ := @runs item (.head _) first (.list mark [] :: frames)
      (second ++ .closeList :: rest) itself room.inside.left
    obtain ⟨values, meanings, closed⟩ := run_items (fun other inside => runs other (.tail _ inside))
      others frames mark room.inside.right [] value rest
    refine ⟨format.list mark (value :: values), takes.list mark (.cons meaning meanings), ?_⟩
    simp only [List.cons_append, List.append_assoc, List.nil_append]
    rw [run_cons, opened, Option.bind_some, run_valueOrClose itself, ran, closed]
    rfl

theorem Takes.runs_object (takes : format.Takes stands named means)
    {members : List (String × Json)}
    (runs : ∀ member ∈ members, format.Runs stands means member.2) :
    format.Runs stands means (.object members) := by
  intro tokens frames rest alike room
  rw [Json.depth] at room
  have opened : ∀ mark, format.step ⟨frames, .value⟩ (.openRecord mark) = _ :=
    fun mark => (begin_open room mark).2
  cases members with
  | nil =>
    have between :
        List.Forall₂ (Token.Alike stands) (.openRecord () :: [] ++ [.closeRecord]) tokens :=
      by rwa [Json.tokens] at alike
    obtain ⟨_, inner, _, rfl, opens, inside, closes⟩ := forall₂_between between
    cases inside
    cases closes
    cases opens with
    | openRecord _ mark =>
    refine ⟨format.record mark [], takes.record mark .nil, ?_⟩
    rw [List.cons_append, List.cons_append, run_cons, opened]
    rfl
  | cons member more =>
    obtain ⟨name, json⟩ := member
    rw [Json.tokens] at alike
    obtain ⟨_, inner, _, rfl, opens, inside, closes⟩ := forall₂_between alike
    obtain ⟨first, second, rfl, itself, others⟩ := forall₂_append_left inside
    cases closes
    cases opens with
    | openRecord _ mark =>
    rw [Json.memberDepth] at room
    obtain ⟨key, value, isNamed, meaning, ran⟩ := takes.run_member (runs (name, json) (.head _))
      itself frames mark room.inside.left [] none (.inr rfl)
      (second ++ .closeRecord :: rest)
    obtain ⟨pairs, meanings, closed⟩ :=
      takes.run_members (fun other inside => runs other (.tail _ inside)) others frames mark
        room.inside.right [] key value rest
    refine ⟨format.record mark ((key, value) :: pairs),
      takes.record mark (.cons ⟨isNamed, meaning⟩ meanings), ?_⟩
    simp only [List.cons_append, List.append_assoc, List.nil_append]
    rw [run_cons, opened, Option.bind_some, ran, closed]
    rfl

theorem Takes.runs (takes : format.Takes stands named means) (json : Json) :
    format.Runs stands means json := by
  induction json using Json.inside with
  | atom json atom =>
    intro tokens frames rest alike _
    rw [Json.tokens_of_isAtom atom] at alike
    obtain ⟨token, none, isWord, ends, rfl⟩ := List.forall₂_cons_left_iff.1 alike
    cases ends
    cases isWord with
    | @word _ word related =>
    obtain ⟨value, read, meaning⟩ := takes.value related
    refine ⟨value, meaning, ?_⟩
    have asValue : format.step ⟨frames, .value⟩ (.word word) = some ⟨frames, .after value⟩ :=
      congrArg (Option.map fun value => State.mk frames (Mode.after value)) read
    rw [List.cons_append, run_cons, asValue]
    rfl
  | array items ih => exact takes.runs_array ih
  | object members ih => exact takes.runs_object ih

theorem Takes.read (takes : format.Takes stands named means) {json : Json}
    {tokens : List (Token μ α)} (alike : List.Forall₂ (Token.Alike stands) json.tokens tokens)
    (room : ∀ limit ∈ format.depth, json.depth ≤ limit) :
    ∃ value, format.read tokens = some value ∧ means json value := by
  have below : format.HasRoom ([] : List (Frame μ κ τ)).length json.depth := by
    simpa [HasRoom] using room
  obtain ⟨value, meaning, ran⟩ := takes.runs json [] alike below
  refine ⟨value, ?_, meaning⟩
  rw [List.append_nil] at ran
  rw [Format.read, start, ran]
  rfl

end Format

end Outline

end CloudAudit
