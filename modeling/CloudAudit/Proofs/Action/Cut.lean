import CloudAudit.Proofs.Action.Verb
import CloudAudit.Proofs.Json.Brackets

/-! A body that ends before its object does, or that goes on behind it, names no verb. -/
namespace CloudAudit

namespace Json

theorem toUTF8_eq_utf8Encode (text : String) : text.toUTF8 = text.toList.utf8Encode :=
  String.utf8Encode_toList.symm

theorem byte_of_blanks {blank : List Char} (isBlank : ∀ c ∈ blank, c ∈ blanks) {byte : UInt8}
    (inside : byte ∈ blank.utf8Encode.data) : byte ∈ [0x20, 0x09, 0x0A, 0x0D] := by
  have each : blanks.all (fun c =>
      (String.utf8EncodeChar c).all (· ∈ [0x20, 0x09, 0x0A, 0x0D])) = true := by decide
  rw [List.utf8Encode, List.data_toByteArray, List.mem_toArray] at inside
  obtain ⟨c, listed, encoded⟩ := List.mem_flatMap.1 inside
  have bytes := List.all_eq_true.1 each c (isBlank c listed)
  exact List.all_iff_forall_prop.1 bytes byte encoded

section

variable {text : String} (braced : Braced text.toList)

include braced

/-- The text of an object is not read from a part of its bytes, wherever it is cut. -/
theorem ofBytes?_of_cut {part rest : ByteArray} (cut : part ++ rest = text.toUTF8)
    (proper : rest ≠ .empty) : ofBytes? part = none := by
  by_contra some
  obtain ⟨json, reads⟩ := Option.ne_none_iff_exists'.1 some
  obtain ⟨source, decoded, read⟩ := Option.bind_eq_some_iff.1 reads
  rw [eq_toUTF8_of_fromUTF8? decoded, toUTF8_eq_utf8Encode, toUTF8_eq_utf8Encode] at cut
  obtain ⟨behind, same⟩ := List.isPrefix_of_utf8Encode_append_eq_utf8Encode rest cut
  obtain ⟨blank, _, whole⟩ := braced.eq_of_read? read (same.trans (List.append_nil _).symm)
  have shorter := List.IsPrefix.eq_of_length_le ⟨behind, same⟩ (by rw [whole]; simp)
  rw [shorter] at cut
  apply proper
  exact (ByteArray.append_right_inj _).1 (cut.trans ByteArray.append_empty.symm)

/-- Behind an object there may only be blanks. -/
theorem ofBytes?_of_polluted {more : ByteArray}
    (polluted : ∃ byte ∈ more.data, byte ∉ [0x20, 0x09, 0x0A, 0x0D]) :
    ofBytes? (text.toUTF8 ++ more) = none := by
  by_contra some
  obtain ⟨json, reads⟩ := Option.ne_none_iff_exists'.1 some
  obtain ⟨source, decoded, read⟩ := Option.bind_eq_some_iff.1 reads
  have bytes := eq_toUTF8_of_fromUTF8? decoded
  rw [toUTF8_eq_utf8Encode, toUTF8_eq_utf8Encode] at bytes
  obtain ⟨behind, same⟩ := List.isPrefix_of_utf8Encode_append_eq_utf8Encode more bytes
  obtain ⟨blank, isBlank, whole⟩ := braced.eq_of_read? read ((List.append_nil _).trans same.symm)
  rw [whole, List.utf8Encode_append, ByteArray.append_right_inj] at bytes
  obtain ⟨byte, inside, other⟩ := polluted
  rw [bytes] at inside
  exact other (byte_of_blanks isBlank inside)

end

end Json

theorem Action.ofBody_of_unread {body : ByteArray} (unread : Json.ofBytes? body = none) :
    Action.ofBody (some body) = ⟨.create, if body.isEmpty then [] else [.actionBodyNotJson]⟩ := by
  rw [ofBody]
  split
  · rfl
  · rw [unread]
    rfl

/-- Whatever part of its bytes an object is cut to, and whatever else than blanks comes behind it,
the action is a creation, and unless nothing is left of the body that is logged. -/
theorem AuditMap.classify_broken_body (map : AuditMap) {method : Http.Method} {path : String}
    {members : List (String × Json)} {text : String} (post : method.token = "POST")
    (action : Path.lastSegment path = "action") (unmapped : map.customAction? "action" = none)
    (unmappedMethod : map.customAction? "action/post" = none)
    (records : (Json.object members).Records text) (opens : text.toList.head? = some '{')
    (closes : text.toList.getLast? = some '}') :
    (∀ part rest : ByteArray, part ++ rest = text.toUTF8 → rest ≠ .empty →
      map.classify method path (some part) =
        ⟨.create, if part.isEmpty then [] else [.actionBodyNotJson]⟩) ∧
    (∀ more : ByteArray, (∃ byte ∈ more.data, byte ∉ [0x20, 0x09, 0x0A, 0x0D]) →
      map.classify method path (some (text.toUTF8 ++ more)) = ⟨.create, [.actionBodyNotJson]⟩) ∧
    Event.actionBodyNotJson.level = .debug := by
  have braced := Json.braced_of_records records opens closes
  refine ⟨fun part rest cut proper => ?_, fun more polluted => ?_, rfl⟩
  · rw [map.classify_post_action post action unmapped unmappedMethod]
    exact Action.ofBody_of_unread (Json.ofBytes?_of_cut braced cut proper)
  · have nonempty : (text.toUTF8 ++ more).isEmpty = false := by
      obtain ⟨byte, inside, _⟩ := polluted
      have := Array.size_pos_of_mem inside
      have size : (text.toUTF8 ++ more).size = text.toUTF8.size + more.data.size :=
        ByteArray.size_append
      exact beq_eq_false_iff_ne.2 (by omega)
    rw [map.classify_post_action post action unmapped unmappedMethod,
      Action.ofBody_of_unread (Json.ofBytes?_of_polluted braced polluted), nonempty]
    rfl

/-- Cut inside of an accent, and followed by a second brace. -/
theorem AuditMap.classify_broken_body_of_accent :
    let text := "\x7b\"é\":[\x7b\x7d,\"\x7d\"]\x7d"
    let post : Http.Method := ⟨"POST", by decide⟩
    AuditMap.empty.classify post "/servers/7/action" (some ⟨#[0x7B, 0x22, 0xC3]⟩) =
        ⟨.create, [.actionBodyNotJson]⟩ ∧
      AuditMap.empty.classify post "/servers/7/action" (some .empty) = ⟨.create, []⟩ ∧
      AuditMap.empty.classify post "/servers/7/action" (some (text.toUTF8 ++ ⟨#[0x0A, 0x7D]⟩)) =
        ⟨.create, [.actionBodyNotJson]⟩ := by
  intro text post
  have records : (Json.object [("é", .array [.object [], .string "\x7d"])]).Records text :=
    Json.records_of_eq_compact (by decide +kernel) (by decide +kernel) (by decide +kernel)
  have isAction : Path.lastSegment "/servers/7/action" = "action" := by decide +kernel
  have isPost : post.token = "POST" := rfl
  obtain ⟨cut, polluted, _⟩ := AuditMap.empty.classify_broken_body isPost isAction rfl rfl records
    (by decide +kernel) (by decide +kernel)
  refine ⟨?_, ?_, ?_⟩
  · exact cut ⟨#[0x7B, 0x22, 0xC3]⟩ ⟨text.toUTF8.data.extract 3⟩ (by decide +kernel)
      (by decide +kernel)
  · exact cut .empty text.toUTF8 (by decide +kernel) (by decide +kernel)
  · exact polluted ⟨#[0x0A, 0x7D]⟩ ⟨0x7D, by simp, by decide⟩

end CloudAudit
