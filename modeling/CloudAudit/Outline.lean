/-! Bracketed texts: lists and records of words, whatever the words are. The words come as tokens
one after the other; what is open is held in a list, innermost first. A format says which words may
stand as keys and as values and what a finished list or record becomes. -/
namespace CloudAudit.Outline

/-- An opening bracket carries a mark, so that what it opens can be told where it came from. -/
inductive Token (μ α : Type) where
  | word (text : α)
  | openList (mark : μ)
  | closeList
  | openRecord (mark : μ)
  | closeRecord
  | comma
  | colon
deriving DecidableEq, Repr

structure Format (μ α κ τ : Type) where
  key : α → Option κ
  value : α → Option τ
  list : μ → List τ → τ
  record : μ → List (κ × τ) → τ
  /-- Whether a comma may stand before a closing bracket. -/
  closingComma : Bool
  /-- How many brackets may be open at once. -/
  depth : Option Nat

/-- What is open, with what it holds so far, last one first. -/
inductive Frame (μ κ τ : Type) where
  | list (mark : μ) (held : List τ)
  | record (mark : μ) (held : List (κ × τ)) (key : Option κ)

inductive Mode (τ : Type) where
  | value
  | valueOrClose
  | key
  | keyOrClose
  | colon
  | after (value : τ)

structure State (μ κ τ : Type) where
  frames : List (Frame μ κ τ)
  mode : Mode τ

variable {μ α κ τ : Type}

def Format.roomFor (format : Format μ α κ τ) (frames : List (Frame μ κ τ)) : Bool :=
  format.depth.all (frames.length < ·)

/-- A value begins; in an empty list the closing bracket may come instead. -/
def Format.begin (format : Format μ α κ τ) (frames : List (Frame μ κ τ)) :
    Token μ α → Option (State μ κ τ)
  | .word text => (format.value text).map fun value => ⟨frames, .after value⟩
  | .openList mark =>
    if format.roomFor frames then some ⟨.list mark [] :: frames, .valueOrClose⟩ else none
  | .openRecord mark =>
    if format.roomFor frames then some ⟨.record mark [] none :: frames, .keyOrClose⟩ else none
  | _ => none

def Format.finishList (format : Format μ α κ τ) (mark : μ) (held : List τ)
    (frames : List (Frame μ κ τ)) : State μ κ τ :=
  ⟨frames, .after (format.list mark held.reverse)⟩

def Format.finishRecord (format : Format μ α κ τ) (mark : μ) (held : List (κ × τ))
    (frames : List (Frame μ κ τ)) : State μ κ τ :=
  ⟨frames, .after (format.record mark held.reverse)⟩

def Format.readKey (format : Format μ α κ τ) (frames : List (Frame μ κ τ)) (text : α) :
    Option (State μ κ τ) :=
  match frames with
  | .record mark held _ :: rest =>
    (format.key text).map fun key => ⟨.record mark held (some key) :: rest, .colon⟩
  | _ => none

def Format.step (format : Format μ α κ τ) (state : State μ κ τ) (token : Token μ α) :
    Option (State μ κ τ) :=
  match state.mode, token with
  | .value, token => format.begin state.frames token
  | .valueOrClose, .closeList =>
    match state.frames with
    | .list mark held :: rest => some (format.finishList mark held rest)
    | _ => none
  | .valueOrClose, token => format.begin state.frames token
  | .key, .word text => format.readKey state.frames text
  | .keyOrClose, .word text => format.readKey state.frames text
  | .keyOrClose, .closeRecord =>
    match state.frames with
    | .record mark held _ :: rest => some (format.finishRecord mark held rest)
    | _ => none
  | .colon, .colon => some ⟨state.frames, .value⟩
  | .after value, .comma =>
    match state.frames with
    | .list mark held :: rest =>
      some ⟨.list mark (value :: held) :: rest,
        if format.closingComma then .valueOrClose else .value⟩
    | .record mark held (some key) :: rest =>
      some ⟨.record mark ((key, value) :: held) none :: rest,
        if format.closingComma then .keyOrClose else .key⟩
    | _ => none
  | .after value, .closeList =>
    match state.frames with
    | .list mark held :: rest => some (format.finishList mark (value :: held) rest)
    | _ => none
  | .after value, .closeRecord =>
    match state.frames with
    | .record mark held (some key) :: rest =>
      some (format.finishRecord mark ((key, value) :: held) rest)
    | _ => none
  | _, _ => none

def State.result? (state : State μ κ τ) : Option τ :=
  match state.frames, state.mode with
  | [], .after value => some value
  | _, _ => none

def start : State μ κ τ := ⟨[], .value⟩

def Format.run (format : Format μ α κ τ) (state : State μ κ τ) (tokens : List (Token μ α)) :
    Option (State μ κ τ) :=
  tokens.foldlM format.step state

def Format.read (format : Format μ α κ τ) (tokens : List (Token μ α)) : Option τ :=
  (format.run start tokens).bind State.result?

end CloudAudit.Outline
