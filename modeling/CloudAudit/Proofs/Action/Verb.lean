import CloudAudit.Action
import CloudAudit.Proofs.Json.Integer
import CloudAudit.Proofs.Json.Script

/-! The verb of an action is the first name in its body, however the body is laid out and whatever
else it holds. -/
namespace CloudAudit

open Outline Text

namespace Json

theorem Integral.readable {json : Json} (integral : json.Integral) :
    json.AllWords Readable := by
  intro word inside
  cases word with
  | name => trivial
  | atom value =>
    cases value with
    | number text => exact (integral text inside).isNumber
    | null | bool | string | array | object => trivial

theorem ofBytes?_of_writes {layout : Layout} {json : Json} (writes : layout.Writes script json)
    (integral : json.Integral) (shallow : json.depth ≤ deepest) :
    ofBytes? (String.ofList layout.chars).toUTF8 = some json := by
  rw [ofBytes?_toUTF8]
  exact read?_of_writes writes integral.readable shallow

theorem ofBytes?_empty : ofBytes? .empty = none := by
  have decoded : String.fromUTF8? .empty = some "" := rfl
  rw [ofBytes?, decoded, Option.bind_some, String.toList_empty, read?_nil]

end Json

theorem Action.ofBody_of_record {body : ByteArray} {verb : String} {value : Json}
    {more : List (String × Json)}
    (reads : Json.ofBytes? body = some (.object ((verb, value) :: more))) :
    Action.ofBody (some body) = ⟨.updateWith verb, []⟩ := by
  have nonempty : ¬ body.isEmpty = true := by
    intro empty
    have same : body = .empty := ByteArray.size_eq_zero_iff.1 (beq_iff_eq.1 empty)
    rw [same, Json.ofBytes?_empty] at reads
    cases reads
  rw [ofBody, if_neg nonempty, reads]
  rfl

theorem AuditMap.classify_post_action (map : AuditMap) {method : Http.Method} {path : String}
    (post : method.token = "POST") (action : Path.lastSegment path = "action")
    (unmapped : map.customAction? "action" = none)
    (unmappedMethod : map.customAction? "action/post" = none) (body : Option ByteArray) :
    map.classify method path body = Action.ofBody body := by
  have key : methodKey "action" method = "action/post" := by
    rw [methodKey, post]
    decide +kernel
  have isPost : method.verb = .post := method.verb_eq_post_iff.2 post
  rw [AuditMap.classify_by_rules (by rwa [action, key]) (by rwa [action]), isPost, action]
  rfl

/-- An action that no custom action stands for is named by the first name of its body, a name
that may come again and whose value may be anything. -/
theorem AuditMap.classify_first_name (map : AuditMap) {method : Http.Method} {path : String}
    {layout : Layout} {verb : String} {value : Json} {more : List (String × Json)}
    (post : method.token = "POST") (action : Path.lastSegment path = "action")
    (unmapped : map.customAction? "action" = none)
    (unmappedMethod : map.customAction? "action/post" = none)
    (writes : layout.Writes Json.script (.object ((verb, value) :: more)))
    (integral : (Json.object ((verb, value) :: more)).Integral)
    (shallow : (Json.object ((verb, value) :: more)).depth ≤ 127) :
    map.classify method path (some (String.ofList layout.chars).toUTF8) =
      ⟨.updateWith verb, []⟩ := by
  rw [map.classify_post_action post action unmapped unmappedMethod]
  exact Action.ofBody_of_record (Json.ofBytes?_of_writes writes integral shallow)

theorem AuditMap.classify_first_name_of_smile :
    let text := "\x7b \"r\\uD83D\\ude00\" : [-3,\x7b\x7d],\n\t\"r\\/\":null, \"r😀\":true\x7d"
    AuditMap.empty.classify ⟨"POST", by decide⟩ "/servers/7/action.json" (some text.toUTF8) =
      ⟨.updateWith "r😀", []⟩ := by
  intro text
  let layout : Layout := ⟨[⟨[], .openRecord (), ['{']⟩,
      ⟨[' '], .word (.name "r😀"), "\"r\\uD83D\\ude00\"".toList⟩, ⟨[' '], .colon, [':']⟩,
      ⟨[' '], .openList (), ['[']⟩, ⟨[], .word (.atom (.number "-3")), "-3".toList⟩,
      ⟨[], .comma, [',']⟩, ⟨[], .openRecord (), ['{']⟩, ⟨[], .closeRecord, ['}']⟩,
      ⟨[], .closeList, [']']⟩, ⟨[], .comma, [',']⟩,
      ⟨['\n', '\t'], .word (.name "r/"), "\"r\\/\"".toList⟩, ⟨[], .colon, [':']⟩,
      ⟨[], .word (.atom .null), "null".toList⟩, ⟨[], .comma, [',']⟩,
      ⟨[' '], .word (.name "r😀"), "\"r😀\"".toList⟩, ⟨[], .colon, [':']⟩,
      ⟨[], .word (.atom (.bool true)), "true".toList⟩, ⟨[], .closeRecord, ['}']⟩], []⟩
  have letter : Json.SpellsChar 'r' ['r'] := .raw (by decide) (by decide) (by decide)
  have smile : Json.SpellsChar '😀' ['😀'] := .raw (by decide) (by decide) (by decide)
  have pair : Json.SpellsChar '😀' "\\uD83D\\ude00".toList :=
    @Json.SpellsChar.pair '😀' "D83D".toList "de00".toList (by decide) rfl rfl ⟨0, by decide⟩
      ⟨0, by decide⟩
  have slash : Json.SpellsChar '/' "\\/".toList := .named (by decide)
  have gaps : ∀ lexeme ∈ layout.lexemes, Json.script.gap lexeme.gap := by decide
  have spelled : ∀ lexeme ∈ layout.lexemes, Json.script.spells lexeme.token lexeme.chars := by
    simp only [layout, List.forall_mem_cons, List.not_mem_nil, false_implies, implies_true,
      and_true]
    exact ⟨rfl, ⟨_, .cons letter (.cons pair .nil), rfl⟩, rfl, rfl, rfl, rfl, rfl, rfl, rfl, rfl,
      ⟨_, .cons letter (.cons slash .nil), rfl⟩, rfl, rfl, rfl,
      ⟨_, .cons letter (.cons smile .nil), rfl⟩, rfl, rfl, rfl⟩
  have writes : layout.Writes Json.script (.object [("r😀", .array [.number "-3", .object []]),
      ("r/", .null), ("r😀", .bool true)]) :=
    ⟨rfl, fun lexeme inside => ⟨gaps lexeme inside, spelled lexeme inside⟩, nofun⟩
  have integral : (Json.object [("r😀", .array [.number "-3", .object []]), ("r/", .null),
      ("r😀", .bool true)]).Integral := by
    intro text inside
    simp [Json.tokens, Json.memberTokens, Json.itemTokens] at inside
    exact ⟨-3, by decide, by decide, inside.trans rfl⟩
  have spelling : text = String.ofList layout.chars := by decide +kernel
  have isAction : Path.lastSegment "/servers/7/action.json" = "action" := by decide +kernel
  rw [spelling]
  exact AuditMap.empty.classify_first_name rfl isAction rfl rfl writes integral (by decide)

end CloudAudit
