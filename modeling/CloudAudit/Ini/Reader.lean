import CloudAudit.Ini.Document
import CloudAudit.Text.Place
import CloudAudit.Text.Space

/-! Reading of documents. A header stands in square brackets, a key before an equals sign or a
colon, a value after it up to the end of the line. A key and a name may run over several lines. A
line that starts with a semicolon or a number sign is a comment. A backslash takes the next
character with it, and a line feed after a backslash is dropped together with it. -/
namespace CloudAudit.Ini

open Text

inductive Cause where
  | inlineComment
  | missingKey
  | unfinished (awaited : List Char)
deriving DecidableEq, Repr

def Cause.message : Cause → String
  | inlineComment => "doesn't support inline comment"
  | missingKey => "missing key"
  | unfinished awaited =>
    "expecting \"[" ++ String.intercalate ", " (awaited.map fun c => "Some('" ++ c.toString ++ "')")
      ++ "]\" but found EOF."

structure Fault where
  cause : Cause
  rest : List Char
deriving DecidableEq, Repr

/-- The place of a fault is just past the first character that is not read. -/
def Fault.place (fault : Fault) (text : List Char) : Place :=
  Place.ofRest text fault.rest.tail

def endsLine (c : Char) : Bool := c = '\n' || c = '\r'

def indents (c : Char) : Bool := c = ' ' || c = '\t'

def separates (c : Char) : Bool := c = '=' || c = ':'

def opensComment (c : Char) : Bool := c = ';' || c = '#'

/-- The text up to the first stop, in front of `read` last character first, and what follows it. -/
def upTo (stop : Char → Bool) (read : List Char) : List Char → List Char × List Char
  | [] => (read.reverse, [])
  | c :: rest =>
    if stop c then (read.reverse, c :: rest)
    else if c = '\\' then
      match rest with
      | [] => (('\\' :: read).reverse, [])
      | next :: after =>
        if next = '\n' then upTo stop read after else upTo stop (next :: '\\' :: read) after
    else upTo stop (c :: read) rest

/-- White space is skipped, but not the indentation of a line. The answer tells whether the rest
starts a line; `fresh` tells it of the text. -/
def skipSpace (fresh : Bool) : List Char → Bool × List Char
  | [] => (fresh, [])
  | c :: rest =>
    if isSpace c then
      if endsLine c && rest.head?.any indents then (c = '\n', rest) else skipSpace (c = '\n') rest
    else (fresh, c :: rest)

theorem upTo_of_stop {stop : Char → Bool} {c : Char} (stops : stop c = true)
    (read rest : List Char) : upTo stop read (c :: rest) = (read.reverse, c :: rest) := by
  unfold upTo
  rw [if_pos stops]

theorem upTo_of_pass {stop : Char → Bool} {c : Char} (pass : stop c = false) (plain : c ≠ '\\')
    (read rest : List Char) : upTo stop read (c :: rest) = upTo stop (c :: read) rest := by
  rw [upTo.eq_def]
  simp only [pass, plain, Bool.false_eq_true, if_false]

theorem upTo_of_pair {stop : Char → Bool} (pass : stop '\\' = false) {c : Char} (inLine : c ≠ '\n')
    (read rest : List Char) :
    upTo stop read ('\\' :: c :: rest) = upTo stop (c :: '\\' :: read) rest := by
  rw [upTo.eq_def]
  simp only [pass, inLine, Bool.false_eq_true, if_false, if_true]

theorem upTo_length (stop : Char → Bool) (read text : List Char) :
    (upTo stop read text).2.length ≤ text.length := by
  fun_induction upTo stop read text <;> simp_all <;> omega

theorem upTo_length_lt {stop : Char → Bool} {c : Char} (pass : stop c = false)
    (read rest : List Char) : (upTo stop read (c :: rest)).2.length < (c :: rest).length := by
  have bound := upTo_length stop
  unfold upTo
  split
  · simp_all
  · split
    · split
      · simp
      · split <;> exact Nat.lt_of_le_of_lt (bound _ _) (by simp only [List.length_cons]; omega)
    · exact Nat.lt_of_le_of_lt (bound _ _) (by simp)

theorem skipSpace_length (fresh : Bool) (text : List Char) :
    (skipSpace fresh text).2.length ≤ text.length := by
  fun_induction skipSpace fresh text
  all_goals simp_all
  all_goals omega

structure Progress where
  item : Option Item := none
  key : List Char
  fresh : Bool
  rest : List Char

def readHeader (key rest : List Char) : Except Fault Progress :=
  match upTo (· = ']') [] rest with
  | (_, []) => .error ⟨.unfinished [']'], []⟩
  | (name, _ :: after) =>
    let next := skipSpace false after
    .ok
      { item := some (.header (String.ofList (trimChars name)))
        key
        fresh := next.1
        rest := next.2 }

def readValue (key rest : List Char) : Progress :=
  let value := upTo endsLine [] (rest.dropWhile fun c => isSpace c && !endsLine c)
  let next := skipSpace false value.2
  { item := some (.setting ⟨String.ofList key, String.ofList (trimChars value.1)⟩)
    key := [], fresh := next.1, rest := next.2 }

def readKey (text : List Char) : Option Progress :=
  match upTo separates [] text with
  | (_, []) => none
  | (key, rest) => some { key := trimChars key, fresh := false, rest }

def turn (fresh : Bool) (key : List Char) (c : Char) (rest : List Char) : Except Fault Progress :=
  if opensComment c then
    if fresh then
      let next := skipSpace true (rest.dropWhile (· ≠ '\n')).tail
      .ok { key, fresh := next.1, rest := next.2 }
    else .error ⟨.inlineComment, c :: rest⟩
  else if c = '[' then readHeader key rest
  else if separates c then
    if key.isEmpty then .error ⟨.missingKey, c :: rest⟩ else .ok (readValue key rest)
  else if indents c then
    match rest.dropWhile indents with
    | [] => .ok { key, fresh := false, rest := [] }
    | d :: after =>
      if d = '[' then readHeader key after
      else if endsLine d then .ok { key, fresh := d = '\n', rest := after }
      else .ok ((readKey (d :: after)).getD { key, fresh := false, rest := [] })
  else if endsLine c then
    let next := skipSpace (c = '\n') rest
    .ok { key, fresh := next.1, rest := next.2 }
  else
    match readKey (c :: rest) with
    | none => .error ⟨.unfinished ['=', ':'], []⟩
    | some progress => .ok progress

theorem readHeader_length {key rest : List Char} {next : Progress}
    (found : readHeader key rest = .ok next) : next.rest.length < rest.length := by
  rw [readHeader] at found
  have bound := upTo_length (· = ']') [] rest
  split at found
  case h_1 => cases found
  case h_2 name first after same =>
    cases found
    have skipped := skipSpace_length false after
    simp only [same, List.length_cons] at bound
    exact Nat.lt_of_le_of_lt skipped bound

theorem readValue_length (key rest : List Char) : (readValue key rest).rest.length ≤ rest.length :=
  Nat.le_trans (skipSpace_length _ _)
    (Nat.le_trans (upTo_length _ _ _) (List.dropWhile_suffix _).length_le)

theorem readKey_length {c : Char} {rest : List Char} {next : Progress}
    (pass : separates c = false) (found : readKey (c :: rest) = some next) :
    next.rest.length < (c :: rest).length := by
  rw [readKey] at found
  have bound := upTo_length_lt pass [] rest
  split at found
  case h_1 => cases found
  case h_2 same => cases found; rwa [same] at bound

theorem readKey_length_le {text : List Char} {next : Progress} (found : readKey text = some next) :
    next.rest.length ≤ text.length := by
  rw [readKey] at found
  have bound := upTo_length separates [] text
  split at found
  case h_1 => cases found
  case h_2 same => cases found; rwa [same] at bound

/-- Every turn reads at least one character. -/
theorem turn_length {fresh : Bool} {key : List Char} {c : Char} {rest : List Char} {next : Progress}
    (found : turn fresh key c rest = .ok next) : next.rest.length < (c :: rest).length := by
  rw [List.length_cons, Nat.lt_succ_iff]
  rw [turn] at found
  split at found
  · split at found
    · cases found
      refine Nat.le_trans (skipSpace_length _ _) ?_
      rw [List.length_tail]
      exact Nat.le_trans (Nat.sub_le _ _) (List.dropWhile_suffix _).length_le
    · cases found
  split at found
  · exact Nat.le_of_lt (readHeader_length found)
  split at found
  · split at found
    · cases found
    · cases found; exact readValue_length _ _
  rename_i separated
  split at found
  · have bound := (List.dropWhile_suffix indents (l := rest)).length_le
    split at found
    · cases found; exact Nat.zero_le _
    · rename_i d after same
      rw [same, List.length_cons] at bound
      split at found
      · exact Nat.le_trans (Nat.le_of_lt (readHeader_length found)) (by omega)
      split at found
      · cases found; show after.length ≤ _; omega
      · cases found
        cases read : readKey (d :: after) with
        | none => exact Nat.zero_le _
        | some progress =>
          exact Nat.le_trans (readKey_length_le read) (by simpa using bound)
  split at found
  · cases found; exact skipSpace_length _ _
  · split at found
    · cases found
    · cases found
      rename_i read
      have := readKey_length (by simpa using separated) read
      simpa [Nat.lt_succ_iff] using this

/-- The items are given last one first. -/
def readFrom (done : List Item) (fresh : Bool) (key text : List Char) :
    Except Fault (List Item) :=
  match text with
  | [] => .ok done.reverse
  | c :: rest =>
    match _found : turn fresh key c rest with
    | .error fault => .error fault
    | .ok next => readFrom (next.item.toList ++ done) next.fresh next.key next.rest
termination_by text.length
decreasing_by exact turn_length _found

theorem readFrom_nil (done : List Item) (fresh : Bool) (key : List Char) :
    readFrom done fresh key [] = .ok done.reverse := by
  rw [readFrom]

theorem readFrom_of_turn {fresh : Bool} {key : List Char} {c : Char} {rest : List Char}
    {next : Progress} (turned : turn fresh key c rest = .ok next) (done : List Item) :
    readFrom done fresh key (c :: rest) =
      readFrom (next.item.toList ++ done) next.fresh next.key next.rest := by
  rw [readFrom]
  split
  · simp_all
  · simp_all

def readItems (text : List Char) : Except Fault (List Item) := readFrom [] true [] text

def read (text : List Char) : Except Fault Document := (readItems text).map Document.ofItems

end CloudAudit.Ini
