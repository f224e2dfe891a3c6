import CloudAudit.AuditMap.Load
import CloudAudit.Proofs.Ini.Step

/-! Lines that are no options: neither blank nor comments nor headers, and without a separator. A
text with such a line is refused, unless the line is swallowed by the name of a later option, by a
header or by an indentation behind which no option comes. -/
namespace CloudAudit

namespace Ini

open Text

def OpensLine (before : List Char) : Prop := ∀ c ∈ before.getLast?, endsLine c = true

/-- Where words end up between two texts when the reader goes over them: in the name of an option
behind them, in a header opened in front of them, or with an indented line behind which no option
comes. -/
inductive Swallowed (before words after : List Char) (items : List Item) : Prop
  | byOption {outer inner more rest : List Char} {separator : Char} {value : String}
    (begins : before = outer ++ inner) (goesOn : after = more ++ separator :: rest)
    (separated : separates separator = true)
    (name : ∀ c ∈ inner ++ words ++ more, separates c = false)
    (member : .setting ⟨String.ofList (trimChars (inner ++ words ++ more)), value⟩ ∈ items)
  | byHeader {outer inner more rest : List Char} (begins : before = outer ++ '[' :: inner)
    (goesOn : words ++ after = more ++ ']' :: rest) (name : ']' ∉ inner ++ more)
    (member : .header (String.ofList (trimChars (inner ++ more))) ∈ items)
  | byIndentation {outer inner : List Char} {c : Char} (begins : before = outer ++ c :: inner)
    (opens : OpensLine outer) (indented : indents c = true)
    (nothing : ∀ d ∈ c :: inner ++ words ++ after, separates d = false)

def EndsLines (before : List Char) : Prop :=
  ∀ front c back, before = front ++ c :: back → isSpace c = false → '\n' ∈ back

theorem EndsLines.behind {front back : List Char} (ends : EndsLines (front ++ back)) :
    EndsLines back := by
  intro outer c inner same visible
  exact ends (front ++ outer) c inner (by rw [same, List.append_assoc]) visible

theorem Swallowed.mono {before words after : List Char} {items all : List Item}
    (swallowed : Swallowed before words after items) (within : ∀ item ∈ items, item ∈ all) :
    Swallowed before words after all := by
  cases swallowed with
  | byOption begins goesOn separated name member =>
    exact .byOption begins goesOn separated name (within _ member)
  | byHeader begins goesOn name member => exact .byHeader begins goesOn name (within _ member)
  | byIndentation begins opens indented nothing =>
    exact .byIndentation begins opens indented nothing

structure Begins (c : Char) : Prop where
  visible : isSpace c = false
  noComment : opensComment c = false
  noBracket : c ≠ '['
  noSeparator : separates c = false

theorem isSpace_of_separates {c : Char} (separated : separates c = true) : isSpace c = false := by
  have kind : c = '=' ∨ c = ':' := by simpa [separates] using separated
  rcases kind with rfl | rfl <;> decide

theorem isSpace_of_opensComment {c : Char} (opens : opensComment c = true) :
    isSpace c = false := by
  have kind : c = ';' ∨ c = '#' := by simpa [opensComment] using opens
  rcases kind with rfl | rfl <;> decide

theorem separates_of_opensComment {c : Char} (opens : opensComment c = true) :
    separates c = false := by
  have kind : c = ';' ∨ c = '#' := by simpa [opensComment] using opens
  rcases kind with rfl | rfl <;> decide

theorem Skipped.opensLine {blank left : List Char} (skipped : Skipped blank left)
    (indented : left.head?.any indents = true) (front : List Char) :
    OpensLine (front ++ blank) := by
  obtain ⟨d, last, ended⟩ := skipped.indented indented
  intro e final
  have same : d = e := by simpa [List.getLast?_append, Option.mem_def.1 last] using final
  exact same ▸ ended

/-- Nothing is skipped in front of a separator. -/
theorem Skipped.eq_separator {blank left rest : List Char} {separator : Char}
    (skipped : Skipped blank left) (separated : separates separator = true)
    (same : blank ++ left = separator :: rest) : left = separator :: rest := by
  cases blank with
  | nil => exact same
  | cons d others =>
    cases same
    have white := skipped.white separator (.head _)
    exact absurd white (ne_true_of_eq_false (isSpace_of_separates separated))

/-- What a turn takes of one line does not reach a later line. -/
theorem EndsLines.same_line {before body more : List Char} {first c : Char}
    (ends : EndsLines before) (visible : isSpace first = false) (inLine : '\n' ∉ body)
    (same : first :: body = before ++ c :: more) : first = c := by
  cases before with
  | nil =>
    cases same
    rfl
  | cons head back =>
    cases same
    have feed := ends [] first back rfl visible
    exact absurd (List.mem_append_left _ feed) inLine

/-- A key that waits in front of a separator is taken by an option. -/
theorem Run.option {fresh : Bool} {key rest : List Char} {items : List Item} {separator : Char}
    (run : Run fresh key (separator :: rest) items) (separated : separates separator = true) :
    ∃ value, .setting ⟨String.ofList key, value⟩ ∈ items := by
  have visible := isSpace_of_separates separated
  have other {d : Char} (indented : indents d = true) : d ≠ separator := by
    rintro rfl
    exact absurd (isSpace_of_indents indented).1 (ne_true_of_eq_false visible)
  cases run with
  | @turn _ again _ waiting _ blank left _ item items step skipped more =>
    generalize same : separator :: rest = text at step
    generalize blank ++ left = next at step
    cases step with
    | @value _ _ value =>
      cases same
      exact ⟨String.ofList (trimChars value), by simp⟩
    | comment opens =>
      cases same
      exact absurd separated (ne_true_of_eq_false (separates_of_opensComment opens))
    | @header indentation _ _ _ indented =>
      cases indentation with
      | nil =>
        cases same
        cases separated
      | cons d more =>
        cases same
        exact absurd rfl (other (indented _ (.head _)))
    | space white =>
      cases same
      exact absurd white (ne_true_of_eq_false visible)
    | name begins =>
      cases same
      exact absurd separated (ne_true_of_eq_false begins)
    | dropped indented =>
      cases same
      exact absurd rfl (other indented)

section Stray

variable {c : Char} {before words after : List Char}

/-- What a turn on text to the left of the line does: it ends there, or takes the line as well. -/
inductive Reaches (before right : List Char) : Option Item → List Char → List Char → Prop
  | short {taken left : List Char} {item : Option Item} {waiting : List Char}
    (split : before = taken ++ left) : Reaches before right item waiting (left ++ right)
  | header {outer inner more waiting after : List Char} (begins : before = outer ++ '[' :: inner)
    (goesOn : right = more ++ ']' :: after) (name : ']' ∉ inner ++ more) :
    Reaches before right (some (.header (String.ofList (trimChars (inner ++ more))))) waiting after
  | option {more after : List Char} {separator : Char} (separated : separates separator = true)
    (goesOn : right = more ++ separator :: after)
    (name : ∀ d ∈ before ++ more, separates d = false) :
    Reaches before right none (trimChars (before ++ more)) (separator :: after)
  | lost {d : Char} {inner waiting : List Char} (begins : before = d :: inner)
    (indented : indents d = true) (nothing : ∀ e ∈ before ++ right, separates e = false) :
    Reaches before right none waiting []

theorem split_before {taken left : List Char} (same : taken ++ left = before ++ c :: words) :
    (∃ more, before = taken ++ more ∧ left = more ++ c :: words) ∨
      ∃ more, taken = before ++ c :: more ∧ words = more ++ left := by
  rcases List.append_eq_append_iff.1 same with short | ⟨reached, split, rest⟩
  · exact .inl short
  · cases reached with
    | nil => exact .inl ⟨[], by simpa using split.symm, rest.symm⟩
    | cons d more =>
      cases rest
      exact .inr ⟨more, split, rfl⟩

/-- What is taken from one line, and begins as no stray line does, ends to the left of the line. -/
theorem reaches_of_line {first : Char} {body after waiting : List Char} {item : Option Item}
    (visible : isSpace first = false) (inLine : '\n' ∉ body) (other : first ≠ c)
    (ends : EndsLines before) (split : first :: (body ++ after) = before ++ c :: words) :
    Reaches before (c :: words) item waiting after := by
  rw [← List.cons_append] at split
  rcases split_before split with ⟨more, rfl, rfl⟩ | ⟨more, reached, _⟩
  · exact .short rfl
  · exact absurd (ends.same_line visible inLine reached) other

/-- A header ends to the left of the line, or its name goes on into it. -/
theorem reaches_of_header {indentation name waiting after : List Char}
    (indented : ∀ d ∈ indentation, indents d = true) (noBracket : ']' ∉ name) (begins : Begins c)
    (split : indentation ++ '[' :: (name ++ ']' :: after) = before ++ c :: words) :
    Reaches before (c :: words) (some (.header (String.ofList (trimChars name)))) waiting after := by
  rcases split_before split with ⟨more, rfl, reached⟩ | ⟨more, reached, _⟩
  · cases more with
    | nil =>
      cases reached
      exact absurd rfl begins.noBracket
    | cons d inner =>
      obtain ⟨rfl, closing⟩ := List.cons.inj reached
      rcases List.append_eq_append_iff.1 closing with ⟨past, rfl, rest⟩ | ⟨more, rfl, rest⟩
      · cases past with
        | nil =>
          have reached := @Reaches.header (indentation ++ '[' :: name) (c :: words) indentation
            name [] waiting _ rfl rest.symm (by simpa using noBracket)
          rw [List.append_nil] at reached
          simpa using reached
        | cons bracket left =>
          obtain ⟨rfl, behind⟩ := List.cons.inj rest
          rw [behind]
          exact @Reaches.short _ _ (indentation ++ '[' :: (name ++ [']'])) left _ _ (by simp)
      · exact .header rfl rest noBracket
  · have white := (isSpace_of_indents (indented c (by simp [reached]))).1
    exact absurd white (ne_true_of_eq_false begins.visible)

theorem Step.reaches {fresh : Bool} {key text waiting left : List Char} {item : Option Item}
    (step : Step fresh key text item waiting left) (split : text = before ++ c :: words)
    (begins : Begins c) (ends : EndsLines before) (plain : '\\' ∉ text) :
    Reaches before (c :: words) item waiting left := by
  cases step with
  | @comment mark body _ opens start inLine =>
    have other : mark ≠ c := by
      rintro rfl
      exact absurd opens (ne_true_of_eq_false begins.noComment)
    exact reaches_of_line (isSpace_of_opensComment opens) inLine other ends split
  | @header indentation inside name after indented read =>
    obtain ⟨whole, all⟩ := read.of_plain fun member => plain (by simp [member])
    subst whole
    have noBracket : ']' ∉ name := fun member => absurd (all _ member) (by decide)
    exact reaches_of_header indented noBracket begins split
  | @value separator inside value _ separated waits read =>
    obtain ⟨whole, all⟩ := read.of_plain fun member => plain (.tail _ member)
    subst whole
    have inLine : '\n' ∉ value := fun member => absurd (all _ member) (by decide)
    have other : separator ≠ c := by
      rintro rfl
      exact absurd separated (ne_true_of_eq_false begins.noSeparator)
    exact reaches_of_line (isSpace_of_separates separated) inLine other ends split
  | space white =>
    rw [split]
    exact .short (List.nil_append _).symm
  | @name first separator rest name after starts read =>
    obtain ⟨whole, all⟩ := read.of_plain plain
    have separated := read.stops separator rfl
    rw [whole] at split
    rcases split_before split with ⟨more, rfl, same⟩ | ⟨more, reached, goesOn⟩
    · rw [same]
      exact .short rfl
    · subst reached
      exact .option separated (by rw [goesOn]; rfl) all
  | @dropped first rest lost indented read =>
    obtain ⟨whole, all⟩ := read.of_plain plain
    rw [List.append_nil] at whole
    rw [← whole, split] at all
    cases before with
    | nil =>
      cases split
      exact absurd (isSpace_of_indents indented).1 (ne_true_of_eq_false begins.visible)
    | cons d inner =>
      cases split
      exact .lost rfl indented all

/-- A separator behind words without one stands behind all of them. -/
theorem beyond_words {reached rest : List Char} {separator : Char}
    (apart : ∀ d ∈ words, separates d = false) (separated : separates separator = true)
    (goesOn : words ++ after = reached ++ separator :: rest) :
    ∃ more, reached = words ++ more ∧ after = more ++ separator :: rest := by
  rcases List.append_eq_append_iff.1 goesOn with beyond | ⟨reached, split, same⟩
  · exact beyond
  · cases reached with
    | nil => exact ⟨[], by simpa using split.symm, same.symm⟩
    | cons d others =>
      cases same
      have inside := apart separator (by simp [split])
      exact absurd separated (ne_true_of_eq_false inside)

/-- In turns to the end of the text the words are swallowed. -/
theorem Run.swallowed {fresh : Bool} {key text : List Char} {items : List Item}
    (run : Run fresh key text items) {taken : List Char}
    (split : text = before ++ c :: (words ++ after)) (begins : Begins c)
    (apart : ∀ d ∈ c :: words, separates d = false) (ends : EndsLines before)
    (plain : '\\' ∉ text) (opens : text.head?.any indents = true → OpensLine taken) :
    Swallowed (taken ++ before) (c :: words) after items := by
  induction run generalizing before taken with
  | done => simp at split
  | @turn fresh again key waiting rest blank left first item items step skipped more ih =>
    have reaches := step.reaches split begins ends plain
    generalize same : blank ++ left = behind at reaches
    cases reaches with
    | @short passed behind _ _ whole =>
      subst whole
      rcases split_before same with ⟨further, rfl, next⟩ | ⟨further, reached, _⟩
      · have starts : left.head?.any indents = true →
            OpensLine (taken ++ (passed ++ blank)) := by
          intro indented
          rw [← List.append_assoc]
          exact skipped.opensLine indented _
        have inside : '\\' ∉ left := by
          obtain ⟨passed, behind⟩ := step.suffix
          intro member
          exact plain (by rw [behind]; simp [member])
        rw [← List.append_assoc] at ends
        have swallowed := ih next ends.behind inside starts
        simp only [List.append_assoc] at swallowed ⊢
        exact swallowed.mono fun item member => List.mem_append_right _ member
      · have white := skipped.white c (by simp [reached])
        exact absurd white (ne_true_of_eq_false begins.visible)
    | @header outer inner more' _ after' starts goesOn name =>
      subst starts
      rw [← List.append_assoc]
      exact .byHeader rfl goesOn name (by simp)
    | @option reached rest' separator separated goesOn name =>
      obtain ⟨beyond, rfl, behind⟩ := beyond_words apart separated goesOn
      obtain rfl := skipped.eq_separator separated same
      obtain ⟨value, member⟩ := more.option separated
      rw [← List.append_assoc] at name member
      exact .byOption rfl behind separated name (List.mem_append_right _ member)
    | @lost d inner _ starts indented nothing =>
      subst starts
      refine .byIndentation rfl (opens ?_) indented (by simpa using nothing)
      rw [split]
      simpa using indented

end Stray

structure IsStray (line : List Char) : Prop where
  inLine : '\n' ∉ line
  apart : ∀ c ∈ line, separates c = false
  begins : ∃ c ∈ (line.dropWhile isSpace).head?, c ∉ ['#', ';', '[']

instance (line : List Char) : Decidable (IsStray line) :=
  decidable_of_iff ('\n' ∉ line ∧ line.all (separates · = false) = true ∧
      (line.dropWhile isSpace).head?.any (· ∉ ['#', ';', '[']) = true)
    ⟨fun ⟨inLine, apart, begins⟩ =>
        ⟨inLine, by simpa using apart, by simpa [Option.any_eq_true] using begins⟩,
      fun ⟨inLine, apart, begins⟩ =>
        ⟨inLine, by simpa using apart, by simpa [Option.any_eq_true] using begins⟩⟩

/-- A header that the character opens is closed behind it, and if it indents a line there is a
separator behind it. -/
structure Completes (outer : List Char) (c : Char) (inner : List Char) : Prop where
  header : c = '[' → ']' ∈ inner
  line : OpensLine outer → indents c = true → ∃ d ∈ inner, separates d = true

def Completed (text : List Char) : Prop :=
  ∀ outer c inner, text = outer ++ c :: inner → Completes outer c inner

instance (before : List Char) : Decidable (OpensLine before) :=
  decidable_of_iff (before.getLast?.all endsLine = true) (Option.all_eq_true _ _)

instance (outer : List Char) (c : Char) (inner : List Char) : Decidable (Completes outer c inner) :=
  decidable_of_iff ((c = '[' → inner.contains ']' = true) ∧
      (OpensLine outer → indents c = true → inner.any separates = true))
    ⟨fun ⟨header, line⟩ => ⟨by simpa using header, by simpa using line⟩,
      fun ⟨header, line⟩ => ⟨by simpa using header, by simpa using line⟩⟩

theorem completed_iff {text : List Char} :
    Completed text ↔
      ∀ i, ∀ bound : i < text.length, Completes (text.take i) text[i] (text.drop (i + 1)) := by
  constructor
  · intro completed i bound
    refine completed _ _ _ ?_
    rw [← List.drop_eq_getElem_cons bound, List.take_append_drop]
  · rintro places outer c inner rfl
    simpa using places outer.length (by simp)

instance (text : List Char) : Decidable (Completed text) :=
  decidable_of_iff _ completed_iff.symm

theorem endsLines_of_lines {before indentation : List Char}
    (lines : ∀ c ∈ before.getLast?, c = '\n') (white : ∀ c ∈ indentation, isSpace c = true) :
    EndsLines (before ++ indentation) := by
  intro front c back same visible
  rcases List.append_eq_append_iff.1 same with ⟨inner, rfl, rest⟩ | ⟨inner, rfl, rest⟩
  · have member : c ∈ indentation := by simp [rest]
    exact absurd (white c member) (ne_true_of_eq_false visible)
  · cases inner with
    | nil =>
      have member : c ∈ indentation := by
        rw [← List.nil_append indentation, ← rest]
        exact .head _
      exact absurd (white c member) (ne_true_of_eq_false visible)
    | cons d inner =>
      cases rest
      let last := (c :: inner).getLast (List.cons_ne_nil c inner)
      have feed : last = '\n' := lines last (by
        rw [List.getLast?_append, List.getLast?_eq_some_getLast (List.cons_ne_nil c inner)]
        rfl)
      have member : last ∈ c :: inner := List.getLast_mem _
      rcases List.mem_cons.1 member with same | inside
      · rw [← same, feed] at visible
        cases visible
      · exact List.mem_append_left _ (feed ▸ inside)

/-- A stray line is swallowed wherever the text it stands in is read. -/
theorem swallowed_of_stray {before line after : List Char} {items : List Item}
    (stray : IsStray line) (lines : ∀ c ∈ before.getLast?, c = '\n')
    (plain : '\\' ∉ before ++ line ++ after)
    (read : readItems (before ++ line ++ after) = .ok items) :
    Swallowed (before ++ line.takeWhile isSpace) (line.dropWhile isSpace) after items := by
  obtain ⟨c, first, noMark⟩ := stray.begins
  obtain ⟨words, visible⟩ := List.head?_eq_some_iff.1 first
  have split := List.takeWhile_append_dropWhile (p := isSpace) (l := line)
  have member : c ∈ line := by
    rw [← split, visible]
    simp
  have begins : Begins c := by
    have seen := List.head?_dropWhile_not isSpace line
    rw [visible] at seen
    simp only [List.mem_cons, List.not_mem_nil, or_false, not_or] at noMark
    refine ⟨by simpa using seen, by simp [opensComment, noMark], noMark.2.2, stray.apart c member⟩
  have apart : ∀ d ∈ c :: words, separates d = false := by
    intro d inside
    refine stray.apart d ?_
    rw [← split, visible]
    exact List.mem_append_right _ inside
  have white : ∀ d ∈ line.takeWhile isSpace, isSpace d = true :=
    fun d inside => List.mem_takeWhile_imp inside
  have whole : before ++ line ++ after =
      (before ++ line.takeWhile isSpace) ++ c :: (words ++ after) := by
    calc before ++ line ++ after
        = before ++ (line.takeWhile isSpace ++ line.dropWhile isSpace) ++ after := by rw [split]
      _ = (before ++ line.takeWhile isSpace) ++ c :: (words ++ after) := by simp [visible]
  rw [visible]
  have start : OpensLine [] := by simp [OpensLine]
  have swallowed : Swallowed ([] ++ (before ++ line.takeWhile isSpace)) (c :: words) after items :=
    (run_of_readItems read).swallowed whole begins apart (endsLines_of_lines lines white) plain
      fun _ => start
  exact swallowed

end Ini

namespace AuditMap

open Ini Text

theorem malformed_or_read (text : List Char) :
    (∃ place cause, parse (String.ofList text) = .error (.malformed place cause)) ∨
      ∃ items, readItems text = .ok items := by
  cases read : readItems text with
  | error fault =>
    left
    rw [parse, String.toList_ofList, Ini.read, read]
    exact ⟨_, _, rfl⟩
  | ok items => exact .inr ⟨items, rfl⟩

section Stray

variable {before line after : List Char} (stray : IsStray line)
  (lines : ∀ c ∈ before.getLast?, c = '\n') (plain : '\\' ∉ before ++ line ++ after)

include stray lines plain

theorem malformed_of_last_stray (last : ∀ c ∈ after, separates c = false)
    (completed : Completed (before ++ line.takeWhile isSpace)) :
    ∃ place cause, parse (String.ofList (before ++ line ++ after)) =
      .error (.malformed place cause) := by
  rcases malformed_or_read (before ++ line ++ after) with malformed | ⟨items, read⟩
  · exact malformed
  · cases swallowed_of_stray stray lines plain read with
    | @byOption _ _ _ _ separator _ _ goesOn separated =>
      have apart := last separator (by simp [goesOn])
      exact absurd separated (ne_true_of_eq_false apart)
    | byHeader begins _ name =>
      exact absurd (List.mem_append_left _ ((completed _ _ _ begins).header rfl)) name
    | @byIndentation _ inner _ begins opens indented nothing =>
      obtain ⟨d, inside, separated⟩ := (completed _ _ _ begins).line opens indented
      have apart := nothing d (by simp [inside])
      exact absurd separated (ne_true_of_eq_false apart)

/-- A stray line makes a text without backslashes malformed, wherever it stands, unless it is
swallowed. It is not, if no option comes behind it and nothing in front of it is left open. -/
theorem parse_stray_line :
    ((∃ place cause, parse (String.ofList (before ++ line ++ after)) =
        .error (.malformed place cause)) ∨
      ∃ items, readItems (before ++ line ++ after) = .ok items ∧
        Swallowed (before ++ line.takeWhile isSpace) (line.dropWhile isSpace) after items) ∧
    ((∀ c ∈ after, separates c = false) → Completed (before ++ line.takeWhile isSpace) →
      ∃ place cause, parse (String.ofList (before ++ line ++ after)) =
        .error (.malformed place cause)) := by
  refine ⟨?_, malformed_of_last_stray stray lines plain⟩
  rcases malformed_or_read (before ++ line ++ after) with malformed | ⟨items, read⟩
  · exact .inl malformed
  · exact .inr ⟨items, read, swallowed_of_stray stray lines plain read⟩

end Stray

theorem parse_stray_line_of_legacy :
    ∃ place cause, parse "[path_keywords]\nservers = server\nlegacy\n" =
      .error (.malformed place cause) := by
  have stray : IsStray "legacy".toList := by decide +kernel
  have last : "[path_keywords]\nservers = server\n".toList.getLast? = some '\n' := by
    decide +kernel
  have lines : ∀ c ∈ "[path_keywords]\nservers = server\n".toList.getLast?, c = '\n' := by
    intro c member
    rw [last] at member
    cases member
    rfl
  have plain : '\\' ∉ "[path_keywords]\nservers = server\n".toList ++ "legacy".toList ++
      ['\n'] := by
    decide +kernel
  have completed : Completed ("[path_keywords]\nservers = server\n".toList ++
      "legacy".toList.takeWhile isSpace) := by
    decide +kernel
  exact (parse_stray_line stray lines plain).2 (List.forall_mem_singleton.2 rfl) completed

/-- An indented line at the end is passed over in silence, and another line becomes part of the
name of the option behind it. -/
theorem stray_lines_taken :
    IsStray " legacy".toList ∧ IsStray "legacy".toList ∧
      (parse "[path_keywords]\nservers = server\n legacy\n").map (·.value) =
        .ok (empty.addPathKeyword "servers" "server") ∧
      (parse "[path_keywords]\nlegacy\nservers = server\n").map (·.value) =
        .ok (empty.addPathKeyword "legacy\nservers" "server") := by
  decide +kernel

end AuditMap

end CloudAudit
