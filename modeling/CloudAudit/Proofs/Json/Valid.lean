import CloudAudit.Proofs.Json.Consumed

/-! Which bytes the strict reader takes: the UTF-8 texts of documents by the grammar, as long as it
reckons no number in them too large and not too many brackets are open at once. Next to the greatest
double it refuses some numbers that round to one, and takes some that do not. -/
namespace CloudAudit.Json

open Outline

/-- A number is a numeral, of whatever size. -/
def Grammatical : Word → Prop
  | .atom (.number text) => ∃ numeral, WritesNumeral numeral text.toList
  | _ => True

/-- The reader does not reckon the number too large. It multiplies the leading digits below `2 ^ 64`
by a power of ten, in doubles, which is not always what the number rounds to. -/
def Moderate : Word → Prop
  | .atom (.number text) =>
    ∀ numeral, WritesNumeral numeral text.toList → overflows numeral = false
  | _ => True

instance : DecidablePred Grammatical
  | .atom (.number text) =>
    decidable_of_iff (∃ read ∈ readNumeral? text.toList, read.2 = []) <| by
      change _ ↔ ∃ numeral, WritesNumeral numeral text.toList
      constructor
      · rintro ⟨⟨numeral, _⟩, read, rfl⟩
        exact ⟨numeral, writesNumeral_iff.2 read⟩
      · rintro ⟨numeral, writes⟩
        exact ⟨(numeral, []), writesNumeral_iff.1 writes, rfl⟩
  | .name _ | .atom .null | .atom (.bool _) | .atom (.string _) | .atom (.array _)
  | .atom (.object _) => isTrue trivial

instance : DecidablePred Moderate
  | .atom (.number text) =>
    decidable_of_iff
        (∀ read ∈ readNumeral? text.toList, read.2 = [] → overflows read.1 = false) <| by
      change _ ↔ ∀ numeral, WritesNumeral numeral text.toList → _
      constructor
      · exact fun each numeral writes => each _ (writesNumeral_iff.1 writes) rfl
      · rintro each ⟨numeral, _⟩ read rfl
        exact each numeral (writesNumeral_iff.2 read)
  | .name _ | .atom .null | .atom (.bool _) | .atom (.string _) | .atom (.array _)
  | .atom (.object _) => isTrue trivial

theorem readable_iff (word : Word) : Readable word ↔ Grammatical word ∧ Moderate word := by
  unfold Readable Grammatical Moderate
  split
  case h_1 text =>
    rw [IsNumber, isNumber_iff]
    constructor
    · rintro ⟨⟨numeral, writes, fits⟩, _⟩
      refine ⟨⟨numeral, writes⟩, fun other writesOther => ?_⟩
      rwa [writesOther.unique writes]
    · rintro ⟨⟨numeral, writes⟩, moderate⟩
      exact ⟨⟨numeral, writes, moderate numeral writes⟩, writes.isNumeralChar⟩
  case h_2 => simp

theorem eq_toUTF8_of_fromUTF8? {bytes : ByteArray} {text : String}
    (decoded : String.fromUTF8? bytes = some text) : bytes = text.toUTF8 := by
  rw [String.fromUTF8?] at decoded
  split at decoded
  case isTrue => cases decoded; rfl
  case isFalse => cases decoded

theorem writes_of_read? {text : List Char} {json : Json} (read : read? text = some json) :
    (∃ layout : Layout, layout.Writes script json ∧ layout.chars = text) ∧
      json.AllWords Readable ∧ json.depth ≤ deepest := by
  obtain ⟨found, first, read⟩ := Option.bind_eq_some_iff.1 read
  obtain ⟨_, rfl, atoms, sets⟩ := readTokens_eq first
  obtain ⟨alike, shallow⟩ := tokens_of_read atoms read
  obtain ⟨layout, chars, tokens, each, ending⟩ := sets json.tokens alike
  refine ⟨⟨layout, ⟨tokens, ?_, ending⟩, chars⟩, fun word inside => ?_, shallow⟩
  · exact fun lexeme inside => ⟨(each lexeme inside).1, (each lexeme inside).2.1⟩
  · rw [← tokens] at inside
    obtain ⟨lexeme, listed, same⟩ := List.mem_map.1 inside
    exact (each lexeme listed).2.2 word same

end CloudAudit.Json
