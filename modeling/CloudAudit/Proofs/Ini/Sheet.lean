import CloudAudit.Ini.Reader
import Mathlib.Algebra.Group.Nat.Even
import Mathlib.Data.List.DropRight
import Mathlib.Data.List.Induction

/-! Sheets: texts of whole lines, each a header, a setting, a comment or blank. Reading a sheet
gives its headers and settings in order, whatever stands between them and however lines end. -/
namespace CloudAudit.Ini

open Text

inductive Ending where
  | lf
  | crlf
deriving DecidableEq, Repr

def Ending.chars : Ending → List Char
  | lf => ['\n']
  | crlf => ['\r', '\n']

inductive Line where
  | blank (indentation : List Char)
  | comment (mark : Char) (text : List Char)
  | header (name : String)
  | setting (key value : String)
deriving DecidableEq, Repr

namespace Line

def chars : Line → List Char
  | blank indentation => indentation
  | comment mark text => mark :: text
  | header name => '[' :: name.toList ++ [']']
  | setting key value => key.toList ++ [' ', '=', ' '] ++ value.toList

def item? : Line → Option Item
  | blank _ | comment _ _ => none
  | header name => some (.header name)
  | setting key value => some (.setting ⟨key, value⟩)

end Line

structure IsName (name : List Char) : Prop where
  trimmed : Trimmed name
  chars : ∀ c ∈ name, c ∉ [']', '\\', '\r', '\n']

structure IsKey (key : List Char) : Prop where
  nonempty : key ≠ []
  trimmed : Trimmed key
  chars : ∀ c ∈ key, c ∉ ['=', ':', '\\', '\r', '\n']
  start : ∀ c ∈ key.head?, c ∉ ['[', '#', ';']

structure IsValue (value : List Char) : Prop where
  trimmed : Trimmed value
  chars : ∀ c ∈ value, c ∉ ['\r', '\n']
  backslashes : Even (value.rtakeWhile (· = '\\')).length

instance (name : List Char) : Decidable (IsName name) :=
  decidable_of_iff (Trimmed name ∧ name.all (· ∉ [']', '\\', '\r', '\n']))
    ⟨fun ⟨trimmed, chars⟩ => ⟨trimmed, by simpa using chars⟩,
      fun ⟨trimmed, chars⟩ => ⟨trimmed, by simpa using chars⟩⟩

instance (key : List Char) : Decidable (IsKey key) :=
  decidable_of_iff (key ≠ [] ∧ Trimmed key ∧ key.all (· ∉ ['=', ':', '\\', '\r', '\n']) ∧
      key.head?.all (· ∉ ['[', '#', ';']))
    ⟨fun ⟨nonempty, trimmed, chars, start⟩ =>
        ⟨nonempty, trimmed, by simpa using chars, by simpa [Option.all_eq_true] using start⟩,
      fun ⟨nonempty, trimmed, chars, start⟩ =>
        ⟨nonempty, trimmed, by simpa using chars, by simpa [Option.all_eq_true] using start⟩⟩

instance (value : List Char) : Decidable (IsValue value) :=
  decidable_of_iff (Trimmed value ∧ value.all (· ∉ ['\r', '\n']) ∧
      Even (value.rtakeWhile (· = '\\')).length)
    ⟨fun ⟨trimmed, chars, even⟩ => ⟨trimmed, by simpa using chars, even⟩,
      fun ⟨trimmed, chars, even⟩ => ⟨trimmed, by simpa using chars, even⟩⟩

namespace Line

def Writable : Line → Prop
  | blank indentation => ∀ c ∈ indentation, c ∈ [' ', '\t']
  | comment mark text => mark ∈ ['#', ';'] ∧ '\n' ∉ text
  | header name => IsName name.toList
  | setting key value => IsKey key.toList ∧ IsValue value.toList

instance : DecidablePred Writable
  | blank indentation => decidable_of_iff (indentation.all (· ∈ [' ', '\t'])) (by simp [Writable])
  | comment mark text => inferInstanceAs (Decidable (mark ∈ ['#', ';'] ∧ '\n' ∉ text))
  | header name => inferInstanceAs (Decidable (IsName name.toList))
  | setting key value => inferInstanceAs (Decidable (IsKey key.toList ∧ IsValue value.toList))

end Line

abbrev Sheet := List (Line × Ending)

namespace Sheet

def chars (sheet : Sheet) : List Char := sheet.flatMap fun line => line.1.chars ++ line.2.chars

def items (sheet : Sheet) : List Item := sheet.filterMap (·.1.item?)

end Sheet

theorem rtakeWhile_cons {α : Type} (p : α → Bool) (a : α) (s : List α) :
    (a :: s).rtakeWhile p = if (a :: s).all p then a :: s else s.rtakeWhile p := by
  split
  case isTrue every => exact List.rtakeWhile_eq_self_iff.2 (List.all_eq_true.1 every)
  case isFalse some =>
    rw [List.rtakeWhile, List.reverse_cons, List.takeWhile_append]
    split
    case isTrue whole =>
      have inside := (List.takeWhile_prefix p).eq_of_length whole
      have rest : s.all p = true := by simpa using inside
      have outside : p a = false := by simpa [rest] using some
      simp [List.rtakeWhile, outside, inside]
    case isFalse => rfl

theorem even_backslashes_of_pair {c : Char} {s : List Char}
    (even : Even (('\\' :: c :: s).rtakeWhile (· = '\\')).length) :
    Even (s.rtakeWhile (· = '\\')).length := by
  rw [rtakeWhile_cons] at even
  split at even
  case isTrue every =>
    have rest : s.rtakeWhile (· = '\\') = s := by
      rw [List.rtakeWhile_eq_self_iff]
      intro d inside
      exact List.all_eq_true.1 every d (.tail _ (.tail _ inside))
    rw [rest]
    simpa [Nat.even_add_one] using even
  case isFalse some =>
    rw [rtakeWhile_cons] at even
    split at even
    case isTrue every => simp_all
    case isFalse => exact even

theorem even_backslashes_of_cons {c : Char} (plain : c ≠ '\\') {s : List Char}
    (even : Even ((c :: s).rtakeWhile (· = '\\')).length) :
    Even (s.rtakeWhile (· = '\\')).length := by
  rwa [rtakeWhile_cons, if_neg (by simp [plain])] at even

theorem upTo_append (stop : Char → Bool) {s : List Char}
    (pass : ∀ c ∈ s, stop c = false ∧ c ≠ '\n')
    (even : Even (s.rtakeWhile (· = '\\')).length) (read rest : List Char) :
    upTo stop read (s ++ rest) = upTo stop (s.reverse ++ read) rest := by
  -- two characters at a time, since a backslash takes the next one with it
  induction s using List.twoStepInduction generalizing read with
  | nil => rfl
  | singleton c =>
    have plain : c ≠ '\\' := by
      rintro rfl
      simp [rtakeWhile_cons] at even
    exact upTo_of_pass (pass c (by simp)).1 plain read rest
  | cons_cons c d s pair single =>
    by_cases escapes : c = '\\'
    · subst escapes
      have inside := pair (fun e member => pass e (by simp [member]))
        (even_backslashes_of_pair even)
      rw [List.cons_append, List.cons_append,
        upTo_of_pair (pass _ (by simp)).1 (pass d (by simp)).2, inside]
      simp
    · have inside := single d (fun e member => pass e (.tail _ member))
        (even_backslashes_of_cons escapes even)
      rw [List.cons_append, upTo_of_pass (pass c (by simp)).1 escapes, inside]
      simp

theorem upTo_append_stop (stop : Char → Bool) {s : List Char}
    (pass : ∀ c ∈ s, stop c = false ∧ c ≠ '\n')
    (even : Even (s.rtakeWhile (· = '\\')).length) {c : Char} (stops : stop c = true)
    (rest : List Char) : upTo stop [] (s ++ c :: rest) = (s, c :: rest) := by
  rw [upTo_append stop pass even, upTo_of_stop stops]
  simp

theorem even_backslashes_of_plain {s : List Char} (plain : '\\' ∉ s) :
    Even (s.rtakeWhile (· = '\\')).length := by
  have none : s.rtakeWhile (· = '\\') = [] := by
    rw [List.rtakeWhile_eq_nil_iff]
    intro nonempty last
    have same : s.getLast nonempty = '\\' := by simpa using last
    exact plain (same ▸ List.getLast_mem nonempty)
  simp [none]

theorem skipSpace_of_visible {c : Char} (visible : isSpace c = false) (fresh : Bool)
    (rest : List Char) : skipSpace fresh (c :: rest) = (fresh, c :: rest) := by
  rw [skipSpace, visible, if_neg Bool.false_ne_true]

theorem skipSpace_ending (fresh : Bool) (ending : Ending) (text : List Char) :
    skipSpace fresh (ending.chars ++ text) =
      if text.head?.any indents then (true, text) else skipSpace true text := by
  have feed : ∀ before, skipSpace before ('\n' :: text) =
      if text.head?.any indents then (true, text) else skipSpace true text := by
    intro before
    rw [skipSpace, if_pos (by decide)]
    simp [endsLine]
  cases ending with
  | lf => exact feed fresh
  | crlf =>
    rw [← feed false]
    show skipSpace fresh ('\r' :: '\n' :: text) = _
    rw [skipSpace, if_pos (by decide)]
    simp [indents]

theorem skipSpace_indentation {indentation : List Char}
    (spaces : ∀ c ∈ indentation, c ∈ [' ', '\t']) (fresh : Bool) (text : List Char) :
    ∃ before, skipSpace fresh (indentation ++ text) = skipSpace before text := by
  induction indentation generalizing fresh with
  | nil => exact ⟨fresh, rfl⟩
  | cons c rest ih =>
    obtain ⟨before, skipped⟩ := ih (fun d inside => spaces d (.tail _ inside)) false
    have kind : isSpace c = true ∧ endsLine c = false ∧ c ≠ '\n' := by
      rcases List.mem_pair.1 (spaces c (.head _)) with rfl | rfl <;> decide
    refine ⟨before, ?_⟩
    rw [← skipped, List.cons_append, skipSpace]
    simp [kind]

theorem turn_at_ending (fresh : Bool) (key rest : List Char) {c : Char} (ends : endsLine c = true) :
    turn fresh key c rest =
      .ok { key, fresh := (skipSpace (c = '\n') rest).1, rest := (skipSpace (c = '\n') rest).2 } := by
  have kind : c = '\n' ∨ c = '\r' := by simpa [endsLine] using ends
  rcases kind with rfl | rfl <;> rfl

theorem turn_at_indentation (fresh : Bool) (key : List Char) {c d : Char} {rest after : List Char}
    (indented : indents c = true) (skips : rest.dropWhile indents = d :: after)
    (ends : endsLine d = true) :
    turn fresh key c rest = .ok { key, fresh := d = '\n', rest := after } := by
  have kind : opensComment c = false ∧ c ≠ '[' ∧ separates c = false := by
    have space : c = ' ' ∨ c = '\t' := by simpa [indents] using indented
    rcases space with rfl | rfl <;> decide
  have plain : d ≠ '[' := by
    rintro rfl
    cases ends
  simp [turn, kind, indented, skips, plain, ends]

theorem turn_at_comment (key rest : List Char) {c : Char} (opens : opensComment c = true) :
    turn true key c rest = .ok
      { key, fresh := (skipSpace true (rest.dropWhile (· ≠ '\n')).tail).1
        rest := (skipSpace true (rest.dropWhile (· ≠ '\n')).tail).2 } := by
  rw [turn, if_pos opens, if_pos rfl]

theorem readHeader_of_name (key : List Char) {name : List Char} (written : IsName name)
    (rest : List Char) :
    readHeader key (name ++ ']' :: rest) = .ok
      { item := some (.header (String.ofList name)), key, fresh := (skipSpace false rest).1
        rest := (skipSpace false rest).2 } := by
  have pass : ∀ c ∈ name, (c = ']' : Bool) = false ∧ c ≠ '\n' := by
    intro c inside
    have plain := written.chars c inside
    simp_all
  have plain : '\\' ∉ name := fun inside => written.chars _ inside (by simp)
  rw [readHeader, upTo_append_stop _ pass (even_backslashes_of_plain plain) rfl]
  simp only [trimChars_of_trimmed written.trimmed]

theorem readKey_of_key {key : List Char} (written : IsKey key) (rest : List Char) :
    readKey (key ++ ' ' :: '=' :: rest) = some { key, fresh := false, rest := '=' :: rest } := by
  have pass : ∀ c ∈ key ++ [' '], separates c = false ∧ c ≠ '\n' := by
    intro c inside
    rcases List.mem_append.1 inside with within | space
    · have plain := written.chars c within
      simp_all [separates]
    · rw [List.mem_singleton.1 space]
      decide
  have plain : '\\' ∉ key ++ [' '] := by
    intro inside
    rcases List.mem_append.1 inside with within | space
    · exact written.chars _ within (by simp)
    · simp at space
  rw [List.append_cons, readKey,
    upTo_append_stop separates pass (even_backslashes_of_plain plain) rfl]
  have spaces : ∀ c ∈ [' '], isSpace c = true := List.forall_mem_singleton.2 (by decide)
  simp only [trimChars_append written.trimmed spaces]

theorem Ending.chars_eq_cons (ending : Ending) :
    ∃ first more, ending.chars = first :: more ∧ endsLine first = true := by
  cases ending with
  | lf => exact ⟨'\n', [], rfl, rfl⟩
  | crlf => exact ⟨'\r', ['\n'], rfl, rfl⟩

theorem readValue_of_value (key : List Char) {value : List Char} (written : IsValue value)
    (ending : Ending) (text : List Char) :
    readValue key (' ' :: (value ++ (ending.chars ++ text))) =
      { item := some (.setting ⟨String.ofList key, String.ofList value⟩), key := []
        fresh := (skipSpace false (ending.chars ++ text)).1
        rest := (skipSpace false (ending.chars ++ text)).2 } := by
  obtain ⟨first, more, ends, stops⟩ := ending.chars_eq_cons
  have pass : ∀ c ∈ value, endsLine c = false ∧ c ≠ '\n' := by
    intro c inside
    have plain := written.chars c inside
    simp_all [endsLine]
  have start : ((' ' :: (value ++ first :: (more ++ text))).dropWhile fun c =>
      isSpace c && !endsLine c) = value ++ first :: (more ++ text) := by
    rw [List.dropWhile_cons, if_pos (by decide)]
    cases value with
    | nil => exact List.dropWhile_cons_of_neg (by simp [stops])
    | cons c rest => exact List.dropWhile_cons_of_neg (by simp [written.trimmed.start c rfl])
  rw [ends, List.cons_append, readValue, start,
    upTo_append_stop endsLine pass written.backslashes stops]
  simp only [trimChars_of_trimmed written.trimmed]

theorem turn_at_key (fresh : Bool) (waiting : List Char) {c : Char} {key rest : List Char}
    (written : IsKey (c :: key)) :
    turn fresh waiting c (key ++ ' ' :: '=' :: rest) =
      .ok { key := c :: key, fresh := false, rest := '=' :: rest } := by
  have start := written.start c rfl
  have plain := written.chars c (.head _)
  have noSpace := written.trimmed.start c rfl
  have noIndent : indents c = false := by
    cases indented : indents c with
    | false => rfl
    | true =>
      have space : c = ' ' ∨ c = '\t' := by simpa [indents] using indented
      rcases space with rfl | rfl <;> exact absurd noSpace (by decide)
  have read := readKey_of_key written rest
  rw [List.cons_append] at read
  simp_all [turn, opensComment, separates, endsLine]

/-- Reading at the start of a line gives the items, and so it does behind the white space that the
line starts with. -/
structure Reads (text : List Char) (items : List Item) : Prop where
  atStart : ∀ done, readFrom done true [] text = .ok (done.reverse ++ items)
  skipped : ∀ done, readFrom done (skipSpace true text).1 [] (skipSpace true text).2 =
    .ok (done.reverse ++ items)

namespace Reads

theorem nil : Reads [] [] := by
  have ended : ∀ done, readFrom done true [] [] = .ok (done.reverse ++ []) := by
    intro done
    rw [List.append_nil, readFrom_nil]
  exact ⟨ended, ended⟩

theorem of_visible {c : Char} {rest : List Char} {items : List Item} (visible : isSpace c = false)
    (atStart : ∀ done, readFrom done true [] (c :: rest) = .ok (done.reverse ++ items)) :
    Reads (c :: rest) items := by
  refine ⟨atStart, ?_⟩
  rw [skipSpace_of_visible visible]
  exact atStart

theorem afterEnding {text : List Char} {items : List Item} (reads : Reads text items)
    (ending : Ending) (fresh : Bool) (done : List Item) :
    readFrom done (skipSpace fresh (ending.chars ++ text)).1 []
      (skipSpace fresh (ending.chars ++ text)).2 = .ok (done.reverse ++ items) := by
  rw [skipSpace_ending]
  split
  · exact reads.atStart done
  · exact reads.skipped done

theorem empty {text : List Char} {items : List Item} (reads : Reads text items)
    (ending : Ending) : Reads (ending.chars ++ text) items := by
  refine ⟨?_, reads.afterEnding ending true⟩
  intro done
  cases ending with
  | lf =>
    exact (readFrom_of_turn (turn_at_ending true [] text rfl) done).trans (reads.skipped done)
  | crlf =>
    exact (readFrom_of_turn (turn_at_ending true [] ('\n' :: text) rfl) done).trans
      (reads.afterEnding .lf false done)

theorem blank {text : List Char} {items : List Item} (reads : Reads text items)
    {indentation : List Char} (spaces : ∀ c ∈ indentation, c ∈ [' ', '\t']) (ending : Ending) :
    Reads (indentation ++ ending.chars ++ text) items := by
  cases indentation with
  | nil => exact reads.empty ending
  | cons c rest =>
    rw [List.append_assoc]
    have indented : ∀ d ∈ c :: rest, indents d = true := by
      intro d inside
      rcases List.mem_pair.1 (spaces d inside) with rfl | rfl <;> rfl
    have skips : ∀ after, (rest ++ after).dropWhile indents = after.dropWhile indents :=
      fun after => List.dropWhile_append_of_pos fun d inside => indented d (.tail _ inside)
    refine ⟨?_, ?_⟩
    · intro done
      cases ending with
      | lf =>
        have turned := turn_at_indentation true [] (indented c (.head _)) (skips ('\n' :: text)) rfl
        exact (readFrom_of_turn turned done).trans (reads.atStart done)
      | crlf =>
        -- a turn ends behind the carriage return, and the line feed takes another
        have turned :=
          turn_at_indentation true [] (indented c (.head _)) (skips ('\r' :: '\n' :: text)) rfl
        have next := turn_at_ending false [] text (c := '\n') rfl
        exact ((readFrom_of_turn turned done).trans (readFrom_of_turn next done)).trans
          (reads.skipped done)
    · intro done
      obtain ⟨before, skipped⟩ := skipSpace_indentation spaces true (ending.chars ++ text)
      rw [skipped]
      exact reads.afterEnding ending before done

theorem comment {text : List Char} {items : List Item} (reads : Reads text items) {mark : Char}
    (marks : mark ∈ ['#', ';']) {words : List Char} (inLine : '\n' ∉ words) (ending : Ending) :
    Reads (mark :: words ++ ending.chars ++ text) items := by
  have kind : isSpace mark = false ∧ opensComment mark = true := by
    rcases List.mem_pair.1 marks with rfl | rfl <;> decide
  have skips : ∀ c ∈ words, (c ≠ '\n' : Bool) = true := by
    intro c inside
    simpa using fun same : c = '\n' => inLine (same ▸ inside)
  have after : ((words ++ ending.chars ++ text).dropWhile (· ≠ '\n')).tail = text := by
    rw [List.append_assoc, List.dropWhile_append_of_pos skips]
    cases ending <;> rfl
  apply of_visible kind.1
  intro done
  have turned := turn_at_comment [] (words ++ ending.chars ++ text) kind.2
  rw [after] at turned
  exact (readFrom_of_turn turned done).trans (reads.skipped done)

theorem header {text : List Char} {items : List Item} (reads : Reads text items) {name : String}
    (written : IsName name.toList) (ending : Ending) :
    Reads ('[' :: name.toList ++ [']'] ++ ending.chars ++ text) (.header name :: items) := by
  have same : '[' :: name.toList ++ [']'] ++ ending.chars ++ text =
      '[' :: (name.toList ++ ']' :: (ending.chars ++ text)) := by simp
  rw [same]
  apply of_visible (by decide)
  intro done
  have turned : turn true [] '[' (name.toList ++ ']' :: (ending.chars ++ text)) = _ :=
    readHeader_of_name [] written (ending.chars ++ text)
  have rest := reads.afterEnding ending false (.header name :: done)
  exact (readFrom_of_turn turned done).trans (by simpa using rest)

theorem setting {text : List Char} {items : List Item} (reads : Reads text items)
    {key value : String} (writtenKey : IsKey key.toList) (writtenValue : IsValue value.toList)
    (ending : Ending) :
    Reads (key.toList ++ [' ', '=', ' '] ++ value.toList ++ ending.chars ++ text)
      (.setting ⟨key, value⟩ :: items) := by
  obtain ⟨c, more, split⟩ := List.exists_cons_of_ne_nil writtenKey.nonempty
  have same : key.toList ++ [' ', '=', ' '] ++ value.toList ++ ending.chars ++ text =
      c :: (more ++ ' ' :: '=' :: ' ' :: (value.toList ++ (ending.chars ++ text))) := by simp [split]
  rw [same]
  have written := split ▸ writtenKey
  apply of_visible (written.trimmed.start c rfl)
  intro done
  have atSeparator : turn false (c :: more) '=' (' ' :: (value.toList ++ (ending.chars ++ text))) =
      .ok _ := congrArg Except.ok (readValue_of_value (c :: more) writtenValue ending text)
  have rest := reads.afterEnding ending false (.setting ⟨key, value⟩ :: done)
  exact ((readFrom_of_turn (turn_at_key true [] written) done).trans
    (readFrom_of_turn atSeparator done)).trans (by simpa [← split] using rest)

end Reads

theorem Reads.line {text : List Char} {items : List Item} (reads : Reads text items) {line : Line}
    (writable : line.Writable) (ending : Ending) :
    Reads (line.chars ++ ending.chars ++ text) (line.item?.toList ++ items) := by
  cases line with
  | blank indentation => exact reads.blank writable ending
  | comment mark words => exact reads.comment writable.1 writable.2 ending
  | header name => exact reads.header writable ending
  | setting key value => exact reads.setting writable.1 writable.2 ending

theorem reads_sheet (sheet : Sheet) (writable : ∀ line ∈ sheet, line.1.Writable) :
    Reads sheet.chars sheet.items := by
  induction sheet with
  | nil => exact .nil
  | cons line rest ih =>
    have more := (ih fun other inside => writable other (.tail _ inside)).line
      (writable line (.head _)) line.2
    cases read : line.1.item? <;> simpa [Sheet.chars, Sheet.items, read] using more

def Section.items (part : Section) : List Item :=
  .header part.name :: part.settings.map .setting

/-- A sheet writes sections when they are what its lines say, comments and blank lines aside. -/
structure Sheet.Writes (sheet : Sheet) (sections : List Section) : Prop where
  items : sheet.items = sections.flatMap Section.items
  writable : ∀ line ∈ sheet, line.1.Writable

instance (sheet : Sheet) (sections : List Section) : Decidable (sheet.Writes sections) :=
  decidable_of_iff (sheet.items = sections.flatMap Section.items ∧
      ∀ line ∈ sheet, line.1.Writable)
    ⟨fun ⟨items, writable⟩ => ⟨items, writable⟩, fun ⟨items, writable⟩ => ⟨items, writable⟩⟩

theorem ofItems_settings (settings : List Setting) (rest : List Item) :
    Document.ofItems (settings.map .setting ++ rest) =
      { Document.ofItems rest with loose := settings ++ (Document.ofItems rest).loose } := by
  induction settings with
  | nil => rfl
  | cons setting more ih =>
    rw [List.map_cons, List.cons_append, Document.ofItems, ih]
    rfl

theorem ofItems_sections (sections : List Section) :
    Document.ofItems (sections.flatMap Section.items) = ⟨[], sections⟩ := by
  induction sections with
  | nil => rfl
  | cons part rest ih =>
    rw [List.flatMap_cons, Section.items, List.cons_append, Document.ofItems, ofItems_settings, ih,
      List.append_nil]

/-- Reading a sheet undoes writing it. -/
theorem read_sheet {sheet : Sheet} {sections : List Section} (writes : sheet.Writes sections) :
    read sheet.chars = .ok ⟨[], sections⟩ := by
  have items : readItems sheet.chars = .ok sheet.items :=
    (reads_sheet sheet writes.writable).atStart []
  rw [read, items, writes.items, Except.map, ofItems_sections]

end CloudAudit.Ini
