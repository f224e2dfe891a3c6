import CloudAudit.Ini.Reader
import Mathlib.Data.List.TakeWhile

/-! What a turn of the reader can do. It takes a comment, a header, a value or a name from the front
of the text, or drops the text, and skips white space. -/
namespace CloudAudit.Ini

open Text

/-- What is kept of a text up to a stop, and the rest. A backslash keeps the next character with it,
but goes with a line feed; at the end of the text it stays. -/
inductive UpTo (stop : Char → Bool) : List Char → List Char → List Char → Prop
  | finish : UpTo stop [] [] []
  | stopped {c : Char} {rest : List Char} (stops : stop c = true) :
    UpTo stop (c :: rest) [] (c :: rest)
  | passed {c : Char} {text kept rest : List Char} (pass : stop c = false) (plain : c ≠ '\\')
    (more : UpTo stop text kept rest) : UpTo stop (c :: text) (c :: kept) rest
  | pair {c : Char} {text kept rest : List Char} (inLine : c ≠ '\n')
    (more : UpTo stop text kept rest) : UpTo stop ('\\' :: c :: text) ('\\' :: c :: kept) rest
  | joined {text kept rest : List Char} (more : UpTo stop text kept rest) :
    UpTo stop ('\\' :: '\n' :: text) kept rest
  | alone : UpTo stop ['\\'] ['\\'] []

namespace UpTo

variable {stop : Char → Bool} {text kept rest : List Char}

theorem suffix (upTo : UpTo stop text kept rest) : ∃ source, text = source ++ rest := by
  induction upTo with
  | finish => exact ⟨[], rfl⟩
  | stopped => exact ⟨[], rfl⟩
  | @passed c _ _ _ _ _ _ ih =>
    obtain ⟨source, same⟩ := ih
    exact ⟨c :: source, by simp [same]⟩
  | @pair c _ _ _ _ _ ih =>
    obtain ⟨source, same⟩ := ih
    exact ⟨'\\' :: c :: source, by simp [same]⟩
  | joined _ ih =>
    obtain ⟨source, same⟩ := ih
    exact ⟨'\\' :: '\n' :: source, by simp [same]⟩
  | alone => exact ⟨['\\'], rfl⟩

theorem stops (upTo : UpTo stop text kept rest) : ∀ c ∈ rest.head?, stop c = true := by
  induction upTo with
  | finish => simp
  | stopped stops => simpa using stops
  | passed _ _ _ ih => exact ih
  | pair _ _ ih => exact ih
  | joined _ ih => exact ih
  | alone => simp

/-- Without backslashes all of the text is kept. -/
theorem of_plain (upTo : UpTo stop text kept rest) (plain : '\\' ∉ text) :
    text = kept ++ rest ∧ ∀ c ∈ kept, stop c = false := by
  induction upTo with
  | finish => simp
  | stopped => simp
  | passed pass _ _ ih =>
    obtain ⟨same, all⟩ := ih fun inside => plain (.tail _ inside)
    exact ⟨congrArg (_ :: ·) same, List.forall_mem_cons.2 ⟨pass, all⟩⟩
  | pair => simp at plain
  | joined => simp at plain
  | alone => simp at plain

/-- Blanks in front are kept. -/
theorem append {blank : List Char} (pass : ∀ c ∈ blank, stop c = false ∧ c ≠ '\\')
    (upTo : UpTo stop text kept rest) : UpTo stop (blank ++ text) (blank ++ kept) rest := by
  induction blank with
  | nil => exact upTo
  | cons c more ih =>
    obtain ⟨first, later⟩ := List.forall_mem_cons.1 pass
    exact .passed first.1 first.2 (ih later)

end UpTo

theorem upTo_spec (stop : Char → Bool) (read text : List Char) :
    ∃ kept, (upTo stop read text).1 = read.reverse ++ kept ∧
      UpTo stop text kept (upTo stop read text).2 := by
  fun_induction upTo stop read text with
  | case1 read => exact ⟨[], by simp, .finish⟩
  | case2 read c rest stops => exact ⟨[], by simp, .stopped stops⟩
  | case3 read pass => exact ⟨['\\'], by simp, .alone⟩
  | case4 read after pass ih =>
    obtain ⟨kept, same, upTo⟩ := ih
    exact ⟨kept, same, .joined upTo⟩
  | case5 read next after inLine pass ih =>
    obtain ⟨kept, same, upTo⟩ := ih
    exact ⟨'\\' :: next :: kept, by simp [same], .pair inLine upTo⟩
  | case6 read c rest pass plain ih =>
    obtain ⟨kept, same, upTo⟩ := ih
    exact ⟨c :: kept, by simp [same], .passed (by simpa using pass) plain upTo⟩

theorem isSpace_of_endsLine {c : Char} (ends : endsLine c = true) : isSpace c = true := by
  have kind : c = '\n' ∨ c = '\r' := by simpa [endsLine] using ends
  rcases kind with rfl | rfl <;> rfl

theorem isSpace_of_indents {c : Char} (indented : indents c = true) :
    isSpace c = true ∧ separates c = false ∧ c ≠ '\\' := by
  have kind : c = ' ' ∨ c = '\t' := by simpa [indents] using indented
  rcases kind with rfl | rfl <;> decide

structure Skipped (blank rest : List Char) : Prop where
  white : ∀ c ∈ blank, isSpace c = true
  indented : rest.head?.any indents = true → ∃ c ∈ blank.getLast?, endsLine c = true

theorem Skipped.cons {c : Char} {blank rest : List Char} (white : isSpace c = true)
    (skipped : Skipped blank rest) : Skipped (c :: blank) rest where
  white := List.forall_mem_cons.2 ⟨white, skipped.white⟩
  indented indented := by
    obtain ⟨d, last, ends⟩ := skipped.indented indented
    exact ⟨d, by simp [List.getLast?_cons, Option.mem_def.1 last], ends⟩

theorem skipSpace_spec (fresh : Bool) (text : List Char) :
    ∃ blank, text = blank ++ (skipSpace fresh text).2 ∧
      Skipped blank (skipSpace fresh text).2 := by
  fun_induction skipSpace fresh text with
  | case1 fresh => exact ⟨[], rfl, by simp, by simp⟩
  | case2 fresh c rest white stays =>
    exact ⟨[c], rfl, List.forall_mem_singleton.2 white,
      fun _ => ⟨c, rfl, (Bool.and_eq_true_iff.1 stays).1⟩⟩
  | case3 fresh c rest white stays ih =>
    obtain ⟨blank, same, skipped⟩ := ih
    exact ⟨c :: blank, by rw [List.cons_append, ← same], skipped.cons white⟩
  | case4 fresh c rest visible =>
    refine ⟨[], rfl, by simp, ?_⟩
    intro indented
    exact absurd (isSpace_of_indents (by simpa using indented)).1 visible

inductive Step (fresh : Bool) (key : List Char) :
    List Char → Option Item → List Char → List Char → Prop
  | comment {mark : Char} {words after : List Char} (opens : opensComment mark = true)
    (start : fresh = true) (inLine : '\n' ∉ words) :
    Step fresh key (mark :: (words ++ after)) none key after
  | header {indentation text name after : List Char}
    (indented : ∀ c ∈ indentation, indents c = true)
    (read : UpTo (· = ']') text name (']' :: after)) :
    Step fresh key (indentation ++ '[' :: text)
      (some (.header (String.ofList (trimChars name)))) key after
  | value {separator : Char} {text value after : List Char} (separated : separates separator = true)
    (waits : key ≠ []) (read : UpTo endsLine text value after) :
    Step fresh key (separator :: text)
      (some (.setting ⟨String.ofList key, String.ofList (trimChars value)⟩)) [] after
  | space {c : Char} {rest : List Char} (white : isSpace c = true) :
    Step fresh key (c :: rest) none key (c :: rest)
  | name {c separator : Char} {rest name after : List Char} (begins : separates c = false)
    (read : UpTo separates (c :: rest) name (separator :: after)) :
    Step fresh key (c :: rest) none (trimChars name) (separator :: after)
  | dropped {c : Char} {rest lost : List Char} (indented : indents c = true)
    (read : UpTo separates (c :: rest) lost []) : Step fresh key (c :: rest) none key []

theorem Step.suffix {fresh : Bool} {key waiting text after : List Char} {item : Option Item}
    (step : Step fresh key text item waiting after) : ∃ taken, text = taken ++ after := by
  cases step with
  | @comment mark words => exact ⟨mark :: words, by simp⟩
  | @header indentation text name after indented read =>
    obtain ⟨source, same⟩ := read.suffix
    exact ⟨indentation ++ '[' :: source ++ [']'], by simp [same]⟩
  | @value separator text value after separated waits read =>
    obtain ⟨source, same⟩ := read.suffix
    exact ⟨separator :: source, by simp [same]⟩
  | space => exact ⟨[], rfl⟩
  | name begins read => exact read.suffix
  | @dropped c rest => exact ⟨c :: rest, by simp⟩

section Turn

variable {fresh : Bool} {key rest : List Char} {c : Char} {next : Progress}

theorem comment_step (opens : opensComment c = true) (start : fresh = true) :
    ∃ blank, Step fresh key (c :: rest) none key
        (blank ++ (skipSpace true (rest.dropWhile (· ≠ '\n')).tail).2) ∧
      Skipped blank (skipSpace true (rest.dropWhile (· ≠ '\n')).tail).2 := by
  obtain ⟨blank, same, skipped⟩ := skipSpace_spec true (rest.dropWhile (· ≠ '\n')).tail
  have inLine : '\n' ∉ rest.takeWhile (· ≠ '\n') := by
    intro inside
    simpa using List.mem_takeWhile_imp inside
  have split := List.takeWhile_append_dropWhile (p := (· ≠ '\n')) (l := rest)
  cases left : rest.dropWhile (· ≠ '\n') with
  | nil =>
    rw [left] at split
    refine ⟨[], ?_, by simp, by simp [skipSpace]⟩
    rw [← split]
    exact .comment opens start inLine
  | cons d after =>
    have feed : d = '\n' := by
      have stops := List.head?_dropWhile_not (· ≠ '\n') rest
      rw [left] at stops
      simpa using stops
    subst feed
    rw [left] at split same skipped
    refine ⟨'\n' :: blank, ?_, skipped.cons rfl⟩
    rw [← split, List.cons_append, ← same]
    exact .comment opens start inLine

theorem readHeader_step {indentation : List Char} (indented : ∀ c ∈ indentation, indents c = true)
    (found : readHeader key rest = .ok next) :
    ∃ blank, Step fresh key (indentation ++ '[' :: rest) next.item next.key (blank ++ next.rest) ∧
      Skipped blank next.rest := by
  obtain ⟨name, same, read⟩ := upTo_spec (· = ']') [] rest
  rw [readHeader] at found
  split at found
  case h_1 => cases found
  case h_2 kept bracket after split =>
    rw [split] at same read
    have stops : bracket = ']' := of_decide_eq_true (read.stops bracket rfl)
    subst stops
    cases same
    cases found
    obtain ⟨blank, taken, skipped⟩ := skipSpace_spec false after
    refine ⟨blank, ?_, skipped⟩
    rw [← taken]
    exact .header indented read

theorem readValue_step (separated : separates c = true) (waits : key ≠ []) :
    ∃ blank, Step fresh key (c :: rest) (readValue key rest).item (readValue key rest).key
      (blank ++ (readValue key rest).rest) ∧ Skipped blank (readValue key rest).rest := by
  let blanks (c : Char) : Bool := isSpace c && !endsLine c
  obtain ⟨kept, same, read⟩ := upTo_spec endsLine [] (rest.dropWhile blanks)
  have white : ∀ c ∈ rest.takeWhile blanks, isSpace c = true ∧ endsLine c = false := by
    intro c inside
    simpa [blanks] using List.mem_takeWhile_imp inside
  have whole : UpTo endsLine rest (rest.takeWhile blanks ++ kept)
      (upTo endsLine [] (rest.dropWhile blanks)).2 := by
    have taken := read.append fun c inside => ⟨(white c inside).2, by
      intro backslash
      subst backslash
      exact absurd (white _ inside).1 (by decide)⟩
    rwa [List.takeWhile_append_dropWhile] at taken
  obtain ⟨blank, skips, skipped⟩ :=
    skipSpace_spec false (upTo endsLine [] (rest.dropWhile blanks)).2
  have value : trimChars (upTo endsLine [] (rest.dropWhile blanks)).1 =
      trimChars (rest.takeWhile blanks ++ kept) := by
    rw [same, trimChars_white_append fun c inside => (white c inside).1]
    rfl
  refine ⟨blank, ?_, skipped⟩
  show Step fresh key (c :: rest) (some (.setting ⟨String.ofList key, String.ofList (trimChars
    (upTo endsLine [] (rest.dropWhile blanks)).1)⟩)) [] (blank ++ (skipSpace false _).2)
  rw [← skips, value]
  exact .value separated waits whole

theorem readKey_spec (text : List Char) :
    (readKey text = none ∧ ∃ lost, UpTo separates text lost []) ∨
    ∃ name separator after, UpTo separates text name (separator :: after) ∧
      readKey text =
        some { key := trimChars name, fresh := false, rest := separator :: after } := by
  obtain ⟨name, same, read⟩ := upTo_spec separates [] text
  rw [readKey]
  split
  case h_1 kept split =>
    rw [split] at read
    exact .inl ⟨rfl, name, read⟩
  case h_2 kept after nonempty split =>
    rw [split] at same read
    cases after with
    | nil => exact absurd rfl nonempty
    | cons separator after =>
      cases same
      exact .inr ⟨_, separator, after, read, rfl⟩

theorem Skipped.of_separator {separator : Char} (separated : separates separator = true)
    (after : List Char) : Skipped [] (separator :: after) where
  white := List.forall_mem_nil _
  indented indented := by
    have other := (isSpace_of_indents (by simpa using indented)).2.1
    exact absurd separated (ne_true_of_eq_false other)

/-- An indentation goes into the name of an option, or is dropped with the text behind it. -/
theorem indentedKey_step {indentation text : List Char}
    (all : ∀ d ∈ c :: indentation, indents d = true)
    (read : (readKey text).getD { key, fresh := false, rest := [] } = next) :
    ∃ blank, Step fresh key (c :: (indentation ++ text)) next.item next.key (blank ++ next.rest) ∧
      Skipped blank next.rest := by
  have indented := all c (.head _)
  have white : ∀ d ∈ c :: indentation, isSpace d = true :=
    fun d inside => (isSpace_of_indents (all d inside)).1
  have pass : ∀ d ∈ c :: indentation, separates d = false ∧ d ≠ '\\' :=
    fun d inside => (isSpace_of_indents (all d inside)).2
  subst read
  rcases readKey_spec text with ⟨none, lost, upTo⟩ | ⟨name, separator, after, upTo, found⟩
  · rw [none]
    exact ⟨[], .dropped indented (upTo.append pass), by simp, by simp⟩
  · rw [found]
    refine ⟨[], ?_, .of_separator (upTo.stops _ rfl) _⟩
    have same : trimChars name = trimChars (c :: indentation ++ name) :=
      (trimChars_white_append white name).symm
    show Step fresh key (c :: (indentation ++ text)) none (trimChars name) _
    rw [same]
    exact .name (pass c (.head _)).1 (upTo.append pass)

theorem indentation_step (indented : indents c = true)
    (turned : turn fresh key c rest = .ok next) :
    ∃ blank, Step fresh key (c :: rest) next.item next.key (blank ++ next.rest) ∧
      Skipped blank next.rest := by
  have kind : opensComment c = false ∧ c ≠ '[' ∧ separates c = false := by
    have kind : c = ' ' ∨ c = '\t' := by simpa [indents] using indented
    rcases kind with rfl | rfl <;> decide
  simp only [turn, kind, indented, Bool.false_eq_true, if_false, if_true] at turned
  have split := List.takeWhile_append_dropWhile (p := indents) (l := rest)
  have all : ∀ d ∈ c :: rest.takeWhile indents, indents d = true :=
    List.forall_mem_cons.2 ⟨indented, fun d inside => List.mem_takeWhile_imp inside⟩
  generalize rest.takeWhile indents = indentation at split all
  generalize rest.dropWhile indents = left at split turned
  have white : ∀ d ∈ c :: indentation, isSpace d = true :=
    fun d inside => (isSpace_of_indents (all d inside)).1
  subst split
  split at turned
  case h_1 =>
    cases turned
    exact ⟨c :: indentation, .space (white c (.head _)), white, by simp⟩
  case h_2 d after =>
    split at turned
    case isTrue bracket =>
      subst bracket
      exact readHeader_step all turned
    split at turned
    case isTrue ends =>
      cases turned
      refine ⟨c :: indentation ++ [d], ?_, ?_, fun _ => ⟨d, List.getLast?_concat, ends⟩⟩
      · rw [List.append_assoc]
        exact .space (white c (.head _))
      · intro e inside
        rcases List.mem_append.1 inside with within | last
        · exact white e within
        · cases List.mem_singleton.1 last
          exact isSpace_of_endsLine ends
    case isFalse =>
      exact indentedKey_step all (Except.ok.inj turned)

/-- Every turn is a step and a skip. -/
theorem turn_step (turned : turn fresh key c rest = .ok next) :
    ∃ blank, Step fresh key (c :: rest) next.item next.key (blank ++ next.rest) ∧
      Skipped blank next.rest := by
  by_cases indented : indents c = true
  · exact indentation_step indented turned
  rw [turn] at turned
  split at turned
  case isTrue opens =>
    split at turned
    case isTrue start =>
      cases turned
      exact comment_step opens start
    case isFalse => cases turned
  split at turned
  case isTrue bracket =>
    subst bracket
    exact readHeader_step (List.forall_mem_nil _) turned
  split at turned
  case isTrue separated =>
    split at turned
    case isTrue => cases turned
    case isFalse waits =>
      cases turned
      exact readValue_step separated (by simpa using waits)
  rename_i begins
  split at turned
  case isTrue ends =>
    cases turned
    obtain ⟨blank, same, skipped⟩ := skipSpace_spec (c = '\n') rest
    refine ⟨c :: blank, ?_, skipped.cons (isSpace_of_endsLine ends)⟩
    rw [List.cons_append, ← same]
    exact .space (isSpace_of_endsLine ends)
  case isFalse =>
    rcases readKey_spec (c :: rest) with ⟨none, _⟩ | ⟨name, separator, after, read, found⟩
    · rw [none] at turned
      cases turned
    · rw [found] at turned
      cases turned
      exact ⟨[], .name (by simpa using begins) read, .of_separator (read.stops _ rfl) after⟩

inductive Run : Bool → List Char → List Char → List Item → Prop
  | done {fresh : Bool} {key : List Char} : Run fresh key [] []
  | turn {fresh again : Bool} {key waiting rest blank left : List Char} {c : Char}
    {item : Option Item} {items : List Item}
    (step : Step fresh key (c :: rest) item waiting (blank ++ left)) (skipped : Skipped blank left)
    (more : Run again waiting left items) : Run fresh key (c :: rest) (item.toList ++ items)

theorem run_of_readFrom {done items : List Item} {text : List Char}
    (read : readFrom done fresh key text = .ok items) :
    ∃ more, items = done.reverse ++ more ∧ Run fresh key text more := by
  fun_induction readFrom done fresh key text with
  | case1 done fresh key =>
    cases read
    exact ⟨[], by simp, .done⟩
  | case2 => cases read
  | case3 done fresh key c rest next turned ih =>
    obtain ⟨more, same, run⟩ := ih read
    obtain ⟨blank, step, skipped⟩ := turn_step turned
    refine ⟨next.item.toList ++ more, ?_, .turn step skipped run⟩
    rw [same, List.reverse_append, List.append_assoc]
    cases next.item <;> rfl

end Turn

/-- What is read has been read in turns. -/
theorem run_of_readItems {text : List Char} {items : List Item}
    (read : readItems text = .ok items) : Run true [] text items := by
  obtain ⟨more, same, run⟩ := run_of_readFrom read
  rw [List.reverse_nil, List.nil_append] at same
  exact same ▸ run

end CloudAudit.Ini
