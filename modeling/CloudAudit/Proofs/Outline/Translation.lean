import CloudAudit.Proofs.Outline.Document

/-! Two formats of which one takes the tokens of the other, changed in the same way as what becomes
of them. Then the second reads what the first reads, changed, and nothing else. -/
namespace CloudAudit.Outline

variable {μ ν α β κ ι τ σ : Type}

/-- A change of marks, words, keys and values that commutes with what two formats do. -/
structure Translation (format : Format μ α κ τ) (other : Format ν β ι σ) where
  mark : μ → ν
  word : α → β
  key : κ → ι
  value : τ → σ
  onKey : ∀ text, other.key (word text) = (format.key text).map key
  onValue : ∀ text, other.value (word text) = (format.value text).map value
  onList : ∀ opened items,
    other.list (mark opened) (items.map value) = value (format.list opened items)
  onRecord : ∀ opened members,
    other.record (mark opened) (members.map (Prod.map key value)) =
      value (format.record opened members)
  closingComma : other.closingComma = format.closingComma
  depth : other.depth = format.depth

namespace Translation

variable {format : Format μ α κ τ} {other : Format ν β ι σ} (change : Translation format other)

def token : Token μ α → Token ν β
  | .word text => .word (change.word text)
  | .openList opened => .openList (change.mark opened)
  | .closeList => .closeList
  | .openRecord opened => .openRecord (change.mark opened)
  | .closeRecord => .closeRecord
  | .comma => .comma
  | .colon => .colon

def frame : Frame μ κ τ → Frame ν ι σ
  | .list opened held => .list (change.mark opened) (held.map change.value)
  | .record opened held key =>
    .record (change.mark opened) (held.map (Prod.map change.key change.value))
      (key.map change.key)

def mode : Mode τ → Mode σ
  | .value => .value
  | .valueOrClose => .valueOrClose
  | .key => .key
  | .keyOrClose => .keyOrClose
  | .colon => .colon
  | .after value => .after (change.value value)

def state (state : State μ κ τ) : State ν ι σ :=
  ⟨state.frames.map change.frame, change.mode state.mode⟩

theorem begin_eq (frames : List (Frame μ κ τ)) (token : Token μ α) :
    other.begin (frames.map change.frame) (change.token token) =
      (format.begin frames token).map change.state := by
  have room : other.roomFor (frames.map change.frame) = format.roomFor frames := by
    rw [Format.roomFor, Format.roomFor, change.depth, List.length_map]
  cases token with
  | word text =>
    simp only [token, Format.begin, change.onValue, Option.map_map]
    rfl
  | openList | openRecord =>
    simp only [token, Format.begin, room]
    split <;> rfl
  | closeList | closeRecord | comma | colon => rfl

theorem readKey_eq (frames : List (Frame μ κ τ)) (text : α) :
    other.readKey (frames.map change.frame) (change.word text) =
      (format.readKey frames text).map change.state := by
  cases frames with
  | nil => rfl
  | cons frame rest =>
    cases frame with
    | list => rfl
    | record opened held key =>
      simp only [List.map_cons, frame, Format.readKey, change.onKey, Option.map_map]
      rfl

theorem finishList_eq (opened : μ) (held : List τ) (frames : List (Frame μ κ τ)) :
    other.finishList (change.mark opened) (held.map change.value) (frames.map change.frame) =
      change.state (format.finishList opened held frames) := by
  rw [Format.finishList, ← List.map_reverse, change.onList]
  rfl

theorem finishRecord_eq (opened : μ) (held : List (κ × τ)) (frames : List (Frame μ κ τ)) :
    other.finishRecord (change.mark opened) (held.map (Prod.map change.key change.value))
        (frames.map change.frame) =
      change.state (format.finishRecord opened held frames) := by
  rw [Format.finishRecord, ← List.map_reverse, change.onRecord]
  rfl

/-- Behind a value the innermost frame decides what a token does. -/
theorem step_after (frames : List (Frame μ κ τ)) (value : τ) (token : Token μ α) :
    other.step ⟨frames.map change.frame, .after (change.value value)⟩ (change.token token) =
      (format.step ⟨frames, .after value⟩ token).map change.state := by
  cases token with
  | word | openList | openRecord | colon => rfl
  | closeList =>
    match frames with
    | [] | .record .. :: _ => rfl
    | .list opened held :: rest =>
      exact congrArg some (change.finishList_eq opened (value :: held) rest)
  | closeRecord =>
    match frames with
    | [] | .list .. :: _ | .record _ _ none :: _ => rfl
    | .record opened held (some key) :: rest =>
      exact congrArg some (change.finishRecord_eq opened ((key, value) :: held) rest)
  | comma =>
    match frames with
    | [] | .record _ _ none :: _ => rfl
    | .list .. :: _ | .record _ _ (some _) :: _ =>
      simp only [token, List.map_cons, frame, Option.map_some, Format.step, change.closingComma]
      cases format.closingComma <;> rfl

theorem step_eq (state : State μ κ τ) (token : Token μ α) :
    other.step (change.state state) (change.token token) =
      (format.step state token).map change.state := by
  obtain ⟨frames, mode⟩ := state
  cases mode with
  | value => exact change.begin_eq frames token
  | valueOrClose =>
    cases token with
    | closeList =>
      match frames with
      | [] | .record .. :: _ => rfl
      | .list opened held :: rest => exact congrArg some (change.finishList_eq opened held rest)
    | word text => exact change.begin_eq frames (.word text)
    | openList opened => exact change.begin_eq frames (.openList opened)
    | openRecord opened => exact change.begin_eq frames (.openRecord opened)
    | closeRecord | comma | colon => rfl
  | key =>
    cases token with
    | word text => exact change.readKey_eq frames text
    | openList | closeList | openRecord | closeRecord | comma | colon => rfl
  | keyOrClose =>
    cases token with
    | word text => exact change.readKey_eq frames text
    | closeRecord =>
      match frames with
      | [] | .list .. :: _ => rfl
      | .record opened held _ :: rest =>
        exact congrArg some (change.finishRecord_eq opened held rest)
    | openList | closeList | openRecord | comma | colon => rfl
  | colon => cases token <;> rfl
  | after value => exact change.step_after frames value token

theorem run_eq (state : State μ κ τ) (tokens : List (Token μ α)) :
    other.run (change.state state) (tokens.map change.token) =
      (format.run state tokens).map change.state := by
  induction tokens generalizing state with
  | nil => rfl
  | cons token rest ih =>
    rw [List.map_cons, Format.run_cons, Format.run_cons, change.step_eq]
    cases format.step state token with
    | none => rfl
    | some next => exact ih next

theorem read_eq (tokens : List (Token μ α)) :
    other.read (tokens.map change.token) = (format.read tokens).map change.value := by
  have ran := change.run_eq start tokens
  have began : change.state (start : State μ κ τ) = start := rfl
  rw [began] at ran
  rw [Format.read, ran, Format.read]
  cases format.run start tokens with
  | none => rfl
  | some last =>
    obtain ⟨frames, mode⟩ := last
    cases frames with
    | nil => cases mode <;> rfl
    | cons => rfl

end Translation

end CloudAudit.Outline
