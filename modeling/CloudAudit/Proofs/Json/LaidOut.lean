import CloudAudit.Proofs.Json.Printed

/-! A document laid out over lines is a layout of it as well: the tokens of the document on one
line, each behind the line break or the blank that the printer sets. So it is read back. -/
namespace CloudAudit

open Outline Text

namespace Json

mutual

def lexemes (level : Nat) (gap : List Char) : Json → List Lexeme
  | .array [] => [⟨gap, .openList (), ['[']⟩, ⟨[], .closeList, [']']⟩]
  | .array (item :: rest) =>
    ⟨gap, .openList (), ['[']⟩ ::
      (lexemes (level + 1) (lineBreak (level + 1)) item ++ itemLexemes (level + 1) rest) ++
      [⟨lineBreak level, .closeList, [']']⟩]
  | .object [] => [⟨gap, .openRecord (), ['{']⟩, ⟨[], .closeRecord, ['}']⟩]
  | .object ((name, value) :: rest) =>
    ⟨gap, .openRecord (), ['{']⟩ ::
      (⟨lineBreak (level + 1), .word (.name name), quotedString name⟩ :: ⟨[], .colon, [':']⟩ ::
        lexemes (level + 1) [' '] value ++ memberLexemes (level + 1) rest) ++
      [⟨lineBreak level, .closeRecord, ['}']⟩]
  | value => [⟨gap, .word (.atom value), write value⟩]

def itemLexemes (level : Nat) : List Json → List Lexeme
  | [] => []
  | item :: rest =>
    ⟨[], .comma, [',']⟩ :: lexemes level (lineBreak level) item ++ itemLexemes level rest

def memberLexemes (level : Nat) : List (String × Json) → List Lexeme
  | [] => []
  | (name, value) :: rest =>
    ⟨[], .comma, [',']⟩ :: ⟨lineBreak level, .word (.name name), quotedString name⟩ ::
      ⟨[], .colon, [':']⟩ :: lexemes level [' '] value ++ memberLexemes level rest

end

def overLines (json : Json) : Layout := ⟨json.lexemes 0 [], []⟩

def lexemeChars (lexeme : Lexeme) : List Char := lexeme.gap ++ lexeme.chars

mutual

theorem chars_lexemes (level : Nat) (gap : List Char) : ∀ json : Json,
    (json.lexemes level gap).flatMap lexemeChars = gap ++ layOut level json
  | .null | .bool true | .bool false | .number _ | .string _ => by
    simp [lexemes, lexemeChars, layOut, write]
  | .array [] | .object [] => by simp [lexemes, lexemeChars, layOut]
  | .array (item :: rest) => by
    simp [lexemes, lexemeChars, layOut, chars_lexemes _ _ item, chars_itemLexemes _ rest]
  | .object ((name, value) :: rest) => by
    simp [lexemes, lexemeChars, layOut, chars_lexemes _ _ value, chars_memberLexemes _ rest]

theorem chars_itemLexemes (level : Nat) : ∀ items : List Json,
    (itemLexemes level items).flatMap lexemeChars = layOutItems level items
  | [] => rfl
  | item :: rest => by
    simp [itemLexemes, lexemeChars, layOutItems, chars_lexemes _ _ item, chars_itemLexemes _ rest]

theorem chars_memberLexemes (level : Nat) : ∀ members : List (String × Json),
    (memberLexemes level members).flatMap lexemeChars = layOutMembers level members
  | [] => rfl
  | (name, value) :: rest => by
    simp [memberLexemes, lexemeChars, layOutMembers, chars_lexemes _ _ value,
      chars_memberLexemes _ rest]

end

theorem overLines_chars (json : Json) : json.overLines.chars = layOut 0 json := by
  have all := chars_lexemes 0 [] json
  rw [List.nil_append] at all
  rw [← all]
  exact List.append_nil _

def IsIndentation (gap : List Char) : Prop := ∀ c ∈ gap, c ∈ ['\n', ' ']

theorem isIndentation_nil : IsIndentation [] := List.forall_mem_nil _

theorem isIndentation_space : IsIndentation [' '] := by simp [IsIndentation]

theorem isIndentation_lineBreak (level : Nat) : IsIndentation (lineBreak level) := by
  intro c inside
  rcases List.mem_cons.1 inside with rfl | later
  · exact .head _
  · rw [List.eq_of_mem_replicate later]
    exact .tail _ (.head _)

structure LaysOut (lexemes : List Lexeme) (tokens : List (Outline.Token Unit Word)) : Prop where
  tokens : lexemes.map (·.token) = tokens
  each : ∀ lexeme ∈ lexemes, IsIndentation lexeme.gap ∧ lexeme.chars = printed lexeme.token

namespace LaysOut

variable {lexemes more : List Lexeme} {tokens others : List (Outline.Token Unit Word)}

theorem nil : LaysOut [] [] := ⟨rfl, List.forall_mem_nil _⟩

theorem append (first : LaysOut lexemes tokens) (rest : LaysOut more others) :
    LaysOut (lexemes ++ more) (tokens ++ others) where
  tokens := by rw [List.map_append, first.tokens, rest.tokens]
  each lexeme inside := (List.mem_append.1 inside).elim (first.each lexeme) (rest.each lexeme)

theorem cons {gap : List Char} (indented : IsIndentation gap) (token : Outline.Token Unit Word)
    (rest : LaysOut lexemes tokens) :
    LaysOut (⟨gap, token, printed token⟩ :: lexemes) (token :: tokens) where
  tokens := congrArg (token :: ·) rest.tokens
  each := List.forall_mem_cons.2 ⟨⟨indented, rfl⟩, rest.each⟩

end LaysOut

mutual

theorem laysOut_lexemes (level : Nat) {gap : List Char} (indented : IsIndentation gap) :
    ∀ json : Json, LaysOut (json.lexemes level gap) json.tokens
  | .null | .bool _ | .number _ | .string _ => .cons indented _ .nil
  | .array [] | .object [] => .cons indented _ (.cons isIndentation_nil _ .nil)
  | .array (item :: rest) => by
    have first := laysOut_lexemes (level + 1) (isIndentation_lineBreak (level + 1)) item
    have others := laysOut_items (level + 1) rest
    have closing := LaysOut.nil.cons (isIndentation_lineBreak level) .closeList
    exact ((first.append others).append closing).cons indented (.openList ())
  | .object ((name, value) :: rest) => by
    have first := laysOut_lexemes (level + 1) isIndentation_space value
    have others := laysOut_members (level + 1) rest
    have closing := LaysOut.nil.cons (isIndentation_lineBreak level) .closeRecord
    have member := ((first.append others).cons isIndentation_nil .colon).cons
      (isIndentation_lineBreak (level + 1)) (.word (.name name))
    exact (member.append closing).cons indented (.openRecord ())

theorem laysOut_items (level : Nat) :
    ∀ items : List Json, LaysOut (itemLexemes level items) (itemTokens items)
  | [] => .nil
  | item :: rest => by
    have first := laysOut_lexemes level (isIndentation_lineBreak level) item
    have others := laysOut_items level rest
    exact (first.append others).cons isIndentation_nil .comma

theorem laysOut_members (level : Nat) :
    ∀ members : List (String × Json), LaysOut (memberLexemes level members) (memberTokens members)
  | [] => .nil
  | (name, value) :: rest => by
    have first := laysOut_lexemes level isIndentation_space value
    have others := laysOut_members level rest
    have member := ((first.append others).cons isIndentation_nil .colon).cons
      (isIndentation_lineBreak level) (.word (.name name))
    exact member.cons isIndentation_nil .comma

end

theorem overLines_writes {script : Script}
    (gap : ∀ {gap}, IsIndentation gap → script.gap gap) (ending : script.ending [])
    {json : Json}
    (words : json.AllWords fun word => script.word word (printed (.word word))) :
    json.overLines.Writes script json := by
  have laidOut := laysOut_lexemes 0 isIndentation_nil json
  refine writes_of_printed laidOut.tokens (fun lexeme inside => ?_) ending words
  obtain ⟨indented, same⟩ := laidOut.each lexeme inside
  exact ⟨gap indented, same⟩

/-- A document over lines is read as the document, whatever blanks are printed behind it. -/
theorem ofBytes?_pretty {json : Json} (readable : json.AllWords Readable)
    (shallow : json.depth ≤ deepest) {ending : String} (blank : script.ending ending.toList) :
    ofBytes? (json.pretty ++ ending).toUTF8 = some json := by
  have writes : json.overLines.Writes script json := by
    refine overLines_writes (fun indented c inside => ?_) (List.forall_mem_nil _)
      (spells_printed json)
    rcases List.mem_pair.1 (indented c inside) with rfl | rfl <;> simp
  let layout : Layout := ⟨json.overLines.lexemes, ending.toList⟩
  have behind : layout.Writes script json := ⟨writes.tokens, writes.lexemes, blank⟩
  have chars : layout.chars = (json.pretty ++ ending).toList := by
    rw [String.toList_append, pretty, String.toList_ofList, ← overLines_chars]
    simp [layout, overLines, Layout.chars]
  have reads := ofBytes?_toUTF8 layout.chars
  rw [read?_of_writes behind readable shallow, chars, String.ofList_toList] at reads
  exact reads

end Json

theorem Literal.overLines_writes {json : Json} (onLines : json.OnLines) :
    json.overLines.Writes script json := by
  have ending : script.ending [] := IsEnding.gap .nil
  refine Json.overLines_writes (fun {gap} indented => ?_) ending (spells_printed onLines)
  induction gap with
  | nil => exact .nil
  | cons c rest ih =>
    obtain ⟨first, later⟩ := List.forall_mem_cons.1 indented
    rcases List.mem_pair.1 first with rfl | rfl
    · exact .blank (by decide) (ih later)
    · exact .blank (by decide) (ih later)

end CloudAudit
