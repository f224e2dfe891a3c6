import CloudAudit.Proofs.Json.Spelling

/-! The tokens that the strict reader has taken in are those of what it holds: the brackets that are
open with their finished parts, and the value that has just ended. So the tokens of a text are those
of the document it is read as, and no more brackets are open at once than the reader allows. -/
namespace CloudAudit.Json

open Outline

abbrev Frame := Outline.Frame Unit String Json

abbrev State := Outline.State Unit String Json

abbrev Words := List (Outline.Token Unit Word)

def AwaitsValue (mode : Mode Json) : Prop := mode = .value ∨ mode = .valueOrClose

def AwaitsKey (mode : Mode Json) : Prop := mode = .key ∨ mode = .keyOrClose

inductive Step : State → Token → State → Prop
  | word {frames : List Frame} {mode : Mode Json} (value : Json) (due : AwaitsValue mode) :
    Step ⟨frames, mode⟩ (.word value) ⟨frames, .after value⟩
  | openList {frames : List Frame} {mode : Mode Json} (due : AwaitsValue mode)
    (room : frames.length < deepest) :
    Step ⟨frames, mode⟩ (.openList ()) ⟨.list () [] :: frames, .valueOrClose⟩
  | openRecord {frames : List Frame} {mode : Mode Json} (due : AwaitsValue mode)
    (room : frames.length < deepest) :
    Step ⟨frames, mode⟩ (.openRecord ()) ⟨.record () [] none :: frames, .keyOrClose⟩
  | closeEmptyList {held : List Json} {rest : List Frame} :
    Step ⟨.list () held :: rest, .valueOrClose⟩ .closeList ⟨rest, .after (.array held.reverse)⟩
  | closeList {held : List Json} {rest : List Frame} {value : Json} :
    Step ⟨.list () held :: rest, .after value⟩ .closeList
      ⟨rest, .after (.array (value :: held).reverse)⟩
  | closeEmptyRecord {held : List (String × Json)} {key : Option String} {rest : List Frame} :
    Step ⟨.record () held key :: rest, .keyOrClose⟩ .closeRecord
      ⟨rest, .after (.object held.reverse)⟩
  | closeRecord {held : List (String × Json)} {key : String} {rest : List Frame} {value : Json} :
    Step ⟨.record () held (some key) :: rest, .after value⟩ .closeRecord
      ⟨rest, .after (.object ((key, value) :: held).reverse)⟩
  | name {held : List (String × Json)} {key : Option String} {rest : List Frame}
    {mode : Mode Json} (text : String) (due : AwaitsKey mode) :
    Step ⟨.record () held key :: rest, mode⟩ (.word (.string text))
      ⟨.record () held (some text) :: rest, .colon⟩
  | colon {frames : List Frame} : Step ⟨frames, .colon⟩ .colon ⟨frames, .value⟩
  | nextItem {held : List Json} {rest : List Frame} {value : Json} :
    Step ⟨.list () held :: rest, .after value⟩ .comma ⟨.list () (value :: held) :: rest, .value⟩
  | nextMember {held : List (String × Json)} {key : String} {rest : List Frame} {value : Json} :
    Step ⟨.record () held (some key) :: rest, .after value⟩ .comma
      ⟨.record () ((key, value) :: held) none :: rest, .key⟩

theorem step_of_begin {frames : List Frame} {mode : Mode Json} {token : Token} {next : State}
    (due : AwaitsValue mode) (begun : format.begin frames token = some next) :
    Step ⟨frames, mode⟩ token next := by
  cases token with
  | word value =>
    cases begun
    exact .word value due
  | openList mark =>
    obtain ⟨room, same⟩ := Option.ite_none_right_eq_some.1 begun
    cases same
    exact .openList due (of_decide_eq_true room)
  | openRecord mark =>
    obtain ⟨room, same⟩ := Option.ite_none_right_eq_some.1 begun
    cases same
    exact .openRecord due (of_decide_eq_true room)
  | closeList | closeRecord | comma | colon => cases begun

theorem step_of_readKey {frames : List Frame} {mode : Mode Json} {word : Json} {next : State}
    (due : AwaitsKey mode) (read : format.readKey frames word = some next) :
    Step ⟨frames, mode⟩ (.word word) next := by
  unfold Format.readKey at read
  split at read
  case h_1 =>
    obtain ⟨key, isString, rfl⟩ := Option.map_eq_some_iff.1 read
    cases word with
    | string text =>
      cases isString
      exact .name _ due
    | null | bool | number | array | object => cases isString
  case h_2 => cases read

theorem step_of_close {frames : List Frame} {value : Json} {token : Token} {next : State}
    (stepped : format.step ⟨frames, .after value⟩ token = some next) :
    Step ⟨frames, .after value⟩ token next := by
  cases frames with
  | nil => cases token <;> cases stepped
  | cons frame rest =>
    cases frame with
    | list mark held =>
      cases token with
      | comma => cases stepped; exact .nextItem
      | closeList => cases stepped; exact .closeList
      | word | openList | openRecord | closeRecord | colon => cases stepped
    | record mark held key =>
      cases key with
      | none => cases token <;> cases stepped
      | some key =>
        cases token with
        | comma => cases stepped; exact .nextMember
        | closeRecord => cases stepped; exact .closeRecord
        | word | openList | openRecord | closeList | colon => cases stepped

theorem step_of_format {state next : State} {token : Token}
    (stepped : format.step state token = some next) : Step state token next := by
  obtain ⟨frames, mode⟩ := state
  cases mode with
  | value => exact step_of_begin (.inl rfl) stepped
  | valueOrClose =>
    cases token with
    | closeList =>
      match frames with
      | .list mark held :: rest => cases stepped; exact .closeEmptyList
      | [] | .record .. :: _ => cases stepped
    | word | openList | openRecord | closeRecord | comma | colon =>
      exact step_of_begin (.inr rfl) stepped
  | key =>
    cases token with
    | word => exact step_of_readKey (.inl rfl) stepped
    | openList | openRecord | closeList | closeRecord | comma | colon => cases stepped
  | keyOrClose =>
    cases token with
    | word => exact step_of_readKey (.inr rfl) stepped
    | closeRecord =>
      match frames with
      | .record mark held key :: rest => cases stepped; exact .closeEmptyRecord
      | [] | .list .. :: _ => cases stepped
    | openList | openRecord | closeList | comma | colon => cases stepped
  | colon =>
    cases token with
    | colon => cases stepped; exact .colon
    | word | openList | openRecord | closeList | closeRecord | comma => cases stepped
  | after value => exact step_of_close stepped

/-- Items with a comma behind each, as they stand in front of the next one. -/
def itemsBefore (items : List Json) : Words := items.flatMap fun item => item.tokens ++ [.comma]

def membersBefore (members : List (String × Json)) : Words :=
  members.flatMap fun member =>
    .word (.name member.1) :: .colon :: (member.2.tokens ++ [.comma])

theorem itemTokens_append (item last : Json) (rest : List Json) :
    item.tokens ++ itemTokens (rest ++ [last]) = itemsBefore (item :: rest) ++ last.tokens := by
  induction rest generalizing item with
  | nil => simp [itemTokens, itemsBefore]
  | cons next rest ih =>
    have later := ih next
    simp only [itemsBefore, List.flatMap_cons, List.append_assoc] at later ⊢
    simp [itemTokens, later]

theorem tokens_array (items : List Json) (last : Json) :
    (array (items ++ [last])).tokens =
      .openList () :: (itemsBefore items ++ last.tokens) ++ [.closeList] := by
  cases items with
  | nil => simp [tokens, itemTokens, itemsBefore]
  | cons item rest => rw [List.cons_append, tokens, itemTokens_append]

theorem memberTokens_append (name lastName : String) (value last : Json)
    (rest : List (String × Json)) :
    .word (.name name) :: .colon :: (value.tokens ++ memberTokens (rest ++ [(lastName, last)])) =
      membersBefore ((name, value) :: rest) ++
        .word (.name lastName) :: .colon :: last.tokens := by
  induction rest generalizing name value with
  | nil => simp [memberTokens, membersBefore]
  | cons next rest ih =>
    have later := ih next.1 next.2
    simp only [membersBefore, List.flatMap_cons, List.append_assoc, List.cons_append] at later ⊢
    simp [memberTokens, later]

theorem tokens_object (members : List (String × Json)) (name : String) (last : Json) :
    (object (members ++ [(name, last)])).tokens =
      .openRecord () :: (membersBefore members ++ .word (.name name) :: .colon :: last.tokens) ++
        [.closeRecord] := by
  cases members with
  | nil => simp [tokens, memberTokens, membersBefore]
  | cons member rest =>
    obtain ⟨first, value⟩ := member
    rw [List.cons_append, tokens, ← memberTokens_append]
    rfl

def frameTokens : Frame → Words
  | .list _ held => .openList () :: itemsBefore held.reverse
  | .record _ held none => .openRecord () :: membersBefore held.reverse
  | .record _ held (some key) =>
    .openRecord () :: membersBefore held.reverse ++ [.word (.name key), .colon]

def opened (frames : List Frame) : Words := frames.reverse.flatMap frameTokens

theorem opened_cons (frame : Frame) (rest : List Frame) :
    opened (frame :: rest) = opened rest ++ frameTokens frame := by
  simp [opened]

/-- What a state holds, as the tokens it has come from. -/
inductive Holds : State → Words → Prop
  | value {frames : List Frame} : Holds ⟨frames, .value⟩ (opened frames)
  | valueOrClose {rest : List Frame} :
    Holds ⟨.list () [] :: rest, .valueOrClose⟩ (opened (.list () [] :: rest))
  | key {held : List (String × Json)} {rest : List Frame} :
    Holds ⟨.record () held none :: rest, .key⟩ (opened (.record () held none :: rest))
  | keyOrClose {rest : List Frame} :
    Holds ⟨.record () [] none :: rest, .keyOrClose⟩ (opened (.record () [] none :: rest))
  -- the colon behind the key is still to come
  | colon {held : List (String × Json)} {key : String} {rest : List Frame} :
    Holds ⟨.record () held (some key) :: rest, .colon⟩
      (opened (.record () held none :: rest) ++ [.word (.name key)])
  | after {frames : List Frame} {value : Json} :
    Holds ⟨frames, .after value⟩ (opened frames ++ value.tokens)

theorem Holds.due {frames : List Frame} {mode : Mode Json} {words : Words}
    (holds : Holds ⟨frames, mode⟩ words) (due : AwaitsValue mode) :
    words = opened frames := by
  cases holds with
  | value | valueOrClose => rfl
  | key | keyOrClose | colon | after => rcases due with due | due <;> cases due

theorem Holds.keyDue {held : List (String × Json)} {key : Option String} {rest : List Frame}
    {mode : Mode Json} {words : Words} (holds : Holds ⟨.record () held key :: rest, mode⟩ words)
    (due : AwaitsKey mode) : words = opened (.record () held none :: rest) := by
  cases holds with
  | key | keyOrClose => rfl
  | value | colon | after => rcases due with due | due <;> cases due

/-- Each turn takes in a token for one of the document. -/
theorem Step.holds {state next : State} {token : Token} (step : Step state token next)
    (atom : ∀ value, token = .word value → value.isAtom = true) {words : Words}
    (holds : Holds state words) :
    ∃ word, Token.Alike Stands word token ∧ Holds next (words ++ [word]) := by
  cases step with
  | word value due =>
    refine ⟨.word (.atom value), .word rfl, ?_⟩
    rw [holds.due due, ← tokens_of_isAtom (atom value rfl)]
    exact .after
  | openList due room =>
    refine ⟨.openList (), .openList () (), ?_⟩
    rw [holds.due due]
    convert Holds.valueOrClose using 1
    simp [opened_cons, frameTokens, itemsBefore]
  | openRecord due room =>
    refine ⟨.openRecord (), .openRecord () (), ?_⟩
    rw [holds.due due]
    convert Holds.keyOrClose using 1
    simp [opened_cons, frameTokens, membersBefore]
  | closeEmptyList =>
    cases holds
    refine ⟨.closeList, .closeList, ?_⟩
    convert Holds.after using 1
    simp [opened_cons, frameTokens, itemsBefore, tokens]
  | closeList =>
    cases holds
    refine ⟨.closeList, .closeList, ?_⟩
    convert Holds.after using 1
    simp [opened_cons, frameTokens, tokens_array]
  | closeEmptyRecord =>
    cases holds
    refine ⟨.closeRecord, .closeRecord, ?_⟩
    convert Holds.after using 1
    simp [opened_cons, frameTokens, membersBefore, tokens]
  | closeRecord =>
    cases holds
    refine ⟨.closeRecord, .closeRecord, ?_⟩
    convert Holds.after using 1
    simp [opened_cons, frameTokens, tokens_object]
  | name text due =>
    refine ⟨.word (.name text), .word rfl, ?_⟩
    rw [holds.keyDue due]
    exact .colon
  | colon =>
    cases holds
    refine ⟨.colon, .colon, ?_⟩
    convert Holds.value using 1
    simp [opened_cons, frameTokens]
  | nextItem =>
    cases holds
    refine ⟨.comma, .comma, ?_⟩
    convert Holds.value using 1
    simp [opened_cons, frameTokens, itemsBefore]
  | nextMember =>
    cases holds
    refine ⟨.comma, .comma, ?_⟩
    convert Holds.key using 1
    simp [opened_cons, frameTokens, membersBefore]

theorem depth_of_isAtom {json : Json} (atom : json.isAtom = true) : json.depth = 0 := by
  cases json with
  | array | object => cases atom
  | null | bool | number | string => simp [depth]

theorem depth_array_le {height limit : Nat} (room : height < limit) {items : List Json}
    (each : ∀ item ∈ items, height + 1 + item.depth ≤ limit) :
    height + (array items).depth ≤ limit := by
  induction items with
  | nil => exact room
  | cons item rest ih =>
    obtain ⟨first, others⟩ := List.forall_mem_cons.1 each
    have inner := ih others
    simp only [depth, itemDepth] at inner ⊢
    omega

theorem depth_object_le {height limit : Nat} (room : height < limit)
    {members : List (String × Json)}
    (each : ∀ member ∈ members, height + 1 + member.2.depth ≤ limit) :
    height + (object members).depth ≤ limit := by
  induction members with
  | nil => exact room
  | cons member rest ih =>
    obtain ⟨first, others⟩ := List.forall_mem_cons.1 each
    have inner := ih others
    simp only [depth, memberDepth] at inner ⊢
    omega

def heldValues : Frame → List Json
  | .list _ held => held
  | .record _ held _ => held.map (·.2)

def FramesFit : List Frame → Prop
  | [] => True
  | frame :: rest =>
    rest.length < deepest ∧ (∀ value ∈ heldValues frame, rest.length + 1 + value.depth ≤ deepest) ∧
      FramesFit rest

theorem FramesFit.length_le {frames : List Frame} (fit : FramesFit frames) :
    frames.length ≤ deepest := by
  cases frames with
  | nil => exact Nat.zero_le _
  | cons frame rest => exact fit.1

structure Fits (state : State) : Prop where
  frames : FramesFit state.frames
  value : ∀ value, state.mode = .after value → state.frames.length + value.depth ≤ deepest

theorem fits_after {frames : List Frame} (fit : FramesFit frames) {value : Json}
    (inside : frames.length + value.depth ≤ deepest) : Fits ⟨frames, .after value⟩ where
  frames := fit
  value := by
    rintro _ ⟨⟩
    exact inside

/-- No turn goes past the limit. -/
theorem Step.fits {state next : State} {token : Token} (step : Step state token next)
    (atom : ∀ value, token = .word value → value.isAtom = true) (fits : Fits state) :
    Fits next := by
  obtain ⟨framesFit, valueFits⟩ := fits
  cases step with
  | word value due =>
    apply fits_after framesFit
    rw [depth_of_isAtom (atom value rfl)]
    exact framesFit.length_le
  | openList due room | openRecord due room =>
    exact ⟨⟨room, List.forall_mem_nil _, framesFit⟩, nofun⟩
  | closeEmptyList =>
    obtain ⟨room, held, rest⟩ := framesFit
    refine fits_after rest (depth_array_le room fun item inside => ?_)
    exact held item (List.mem_reverse.1 inside)
  | closeList =>
    obtain ⟨room, held, rest⟩ := framesFit
    refine fits_after rest (depth_array_le room fun item inside => ?_)
    rcases List.mem_cons.1 (List.mem_reverse.1 inside) with rfl | earlier
    · exact valueFits _ rfl
    · exact held item earlier
  | closeEmptyRecord =>
    obtain ⟨room, held, rest⟩ := framesFit
    refine fits_after rest (depth_object_le room fun member inside => ?_)
    exact held member.2 (List.mem_map_of_mem (List.mem_reverse.1 inside))
  | closeRecord =>
    obtain ⟨room, held, rest⟩ := framesFit
    refine fits_after rest (depth_object_le room fun member inside => ?_)
    rcases List.mem_cons.1 (List.mem_reverse.1 inside) with rfl | earlier
    · exact valueFits _ rfl
    · exact held member.2 (List.mem_map_of_mem earlier)
  | name text due | colon => exact ⟨framesFit, nofun⟩
  | nextItem | nextMember =>
    obtain ⟨room, held, rest⟩ := framesFit
    exact ⟨⟨room, List.forall_mem_cons.2 ⟨valueFits _ rfl, held⟩, rest⟩, nofun⟩

/-- A run takes in tokens of the document one after the other and stays within the limit. -/
theorem run_holds {state last : State} {found : List Token}
    (atoms : ∀ value, .word value ∈ found → value.isAtom = true)
    (ran : format.run state found = some last) {words : Words} (holds : Holds state words)
    (fits : Fits state) :
    ∃ more, List.Forall₂ (Token.Alike Stands) more found ∧ Holds last (words ++ more) ∧
      Fits last := by
  induction found generalizing state words with
  | nil =>
    cases ran
    exact ⟨[], .nil, by rwa [List.append_nil], fits⟩
  | cons token rest ih =>
    rw [Format.run_cons] at ran
    obtain ⟨next, stepped, ran⟩ := Option.bind_eq_some_iff.1 ran
    have step := step_of_format stepped
    have atom : ∀ value, token = .word value → value.isAtom = true := by
      rintro value rfl
      exact atoms value (.head _)
    obtain ⟨word, alike, nextHolds⟩ := step.holds atom holds
    obtain ⟨more, alikes, lastHolds, lastFits⟩ := ih (fun value inside => atoms value (.tail _ inside))
      ran nextHolds (step.fits atom fits)
    exact ⟨word :: more, .cons alike alikes, by simpa using lastHolds, lastFits⟩

theorem state_of_result {state : State} {json : Json} (result : state.result? = some json) :
    state = ⟨[], .after json⟩ := by
  unfold State.result? at result
  split at result
  case h_1 none after =>
    cases result
    obtain ⟨frames, mode⟩ := state
    cases none
    cases after
    rfl
  case h_2 => cases result

/-- The tokens that are read as a document are those of the document. -/
theorem tokens_of_read {found : List Token} {json : Json}
    (atoms : ∀ value, .word value ∈ found → value.isAtom = true)
    (read : format.read found = some json) :
    List.Forall₂ (Token.Alike Stands) json.tokens found ∧ json.depth ≤ deepest := by
  obtain ⟨last, ran, result⟩ := Option.bind_eq_some_iff.1 read
  cases state_of_result result
  obtain ⟨words, alike, holds, fits⟩ := run_holds atoms ran Holds.value ⟨trivial, nofun⟩
  cases holds
  have within := fits.value json rfl
  exact ⟨alike, by simpa using within⟩

end CloudAudit.Json
