import UploadMessages.Proofs.Inbound
import UploadMessages.Proofs.Json.Writer

/-! # When a payload is malformed

A text is rejected as a payload if it is blank, is no JSON text, writes no object
or gives some key a value of another kind, and for no other cause. The grammar,
not the reader, says what a JSON text is.
-/

namespace UploadMessages

open Json (IsTextOf)

/-- The causes for which a text is no payload of a kind of message. Which values are right for a
declared kind is a parameter. -/
inductive MalformedBy (Right : Kind → Json.Value → Prop) (kind : Inbound) (text : String) : Prop
  | blank (h : ∀ c ∈ text.toList, Text.isBlank c = true)
  | notJson (h : ¬∃ v, IsTextOf v text.toList)
  | notAnObject {v : Json.Value} (writes : IsTextOf v text.toList) (h : ∀ ms, v ≠ .object ms)
  | mistyped {ms : Json.Members} {key : Key} {type : Kind} {v : Json.Value}
    (writes : IsTextOf (.object ms) text.toList) (declared : (key, type) ∈ kind.schema)
    (last : ms.last? key.name = some v) (notNull : v ≠ .null) (wrong : ¬Right type v)

theorem not_malformedBy_of_members {kind : Inbound} {text : String} {ms : Json.Members}
    (h : Payload.members kind.schema text = .ok ms) : ¬MalformedBy Kind.Takes kind text := by
  obtain ⟨object, typed⟩ := (Payload.members_eq_ok_iff kind.isNarrow_of_mem_schema).mp h
  rintro (blank | notJson | ⟨writes, notObject⟩ | ⟨writes, declared, last, notNull, wrong⟩)
  · have notBlank := Payload.not_blank_of_isTextOf object
    rw [List.all_eq_true.mpr blank] at notBlank
    cases notBlank
  · exact notJson ⟨_, object⟩
  · exact notObject ms (writes.unique object)
  · cases writes.unique object
    rcases typed _ declared _ last with null | right
    · exact notNull null
    · exact wrong right

theorem malformedBy_of_fault {kind : Inbound} {text : String} {fault : Payload.Fault}
    (h : Payload.members kind.schema text = .error fault) : MalformedBy Kind.Takes kind text := by
  by_cases json : ∃ v, IsTextOf v text.toList
  · obtain ⟨v, writes⟩ := json
    by_cases object : ∃ ms, v = .object ms
    · obtain ⟨ms, rfl⟩ := object
      have notTyped : ¬Payload.Typed kind.schema ms := fun typed => by
        rw [(Payload.members_eq_ok_iff kind.isNarrow_of_mem_schema).mpr ⟨writes, typed⟩] at h
        cases h
      simp only [Payload.Typed, Payload.TypedAt, not_forall, not_or] at notTyped
      obtain ⟨⟨key, type⟩, declared, v, last, notNull, wrong⟩ := notTyped
      exact .mistyped writes declared last notNull wrong
    · exact .notAnObject writes fun ms hms => object ⟨ms, hms⟩
  · exact .notJson json

/-- A text is called malformed exactly for one of the causes; all others are accepted, or rejected
for a field or a timestamp. -/
theorem malformedPayload_iff (kind : Inbound) (text : String) :
    ((∃ fault, (kind.ofJson text).result = .error (.malformedPayload fault)) ↔
      MalformedBy Kind.Takes kind text) ∧
    (¬MalformedBy Kind.Takes kind text →
      (∃ m, (kind.ofJson text).result = .ok m) ∨
      (∃ field fault, (kind.ofJson text).result = .error (.invalidField field fault)) ∨
      ∃ time fault, (kind.ofJson text).result = .error (.invalidTimestamp time fault)) := by
  cases read : Payload.members kind.schema text with
  | error fault =>
    have malformed := malformedBy_of_fault read
    refine ⟨⟨fun _ => malformed, fun _ => ⟨fault, ?_⟩⟩, fun fine => absurd malformed fine⟩
    rw [Inbound.ofJson_of_fault read]
    rfl
  | ok ms =>
    have fine := not_malformedBy_of_members read
    have notMalformed := kind.ofMembers_ne_malformed ms
    rw [Inbound.ofJson_of_members read]
    refine ⟨⟨fun ⟨fault, h⟩ => absurd h (notMalformed fault), fun h => absurd h fine⟩, fun _ => ?_⟩
    cases result : (kind.form.ofMembers ms).result with
    | ok m => exact .inl ⟨m, rfl⟩
    | error rejection =>
      cases rejection with
      | malformedPayload fault => exact absurd result (notMalformed fault)
      | invalidField field fault => exact .inr (.inl ⟨field, fault, rfl⟩)
      | invalidTimestamp time fault => exact .inr (.inr ⟨time, fault, rfl⟩)

def minusZeroText : String := "\x7b\"blobSizeInBytes\":-0\x7d"

theorem isTextOf_minusZeroText :
    IsTextOf (.object [(Key.blobSizeInBytes.name, .number ⟨true, [0], [], none⟩)])
      minusZeroText.toList := by
  have literal : Json.LiteralSpelling ⟨true, [0], [], none⟩ ['-', '0'] :=
    @Json.LiteralSpelling.intro ⟨true, [0], [], none⟩ [] [] ⟨by simp, by simp⟩ .absent .absent
  have size : Json.Spelling 126 (.value (.number ⟨true, [0], [], none⟩)) ['-', '0'] :=
    .number literal (by decide +kernel)
  have body := Json.Spelling.object (.firstMember Json.isGap_nil
    (Json.keySpelling_written Key.blobSizeInBytes.name) size Json.isGap_nil)
  exact ⟨[], minusZeroText.toList, [], Json.isGap_nil, body, Json.isGap_nil, by simp⟩

/-- The integer `-0` fits every width and stands for none of the causes, but the text is called
malformed. -/
theorem minusZero_malformed :
    (∃ fault, (Inbound.notification.ofJson minusZeroText).result =
      .error (.malformedPayload fault)) ∧
      ¬MalformedBy Kind.Declares .notification minusZeroText := by
  refine ⟨⟨.mistyped (.floatingPoint ⟨true, [0], [], none⟩) (.integer 64), by decide +kernel⟩, ?_⟩
  have writes := isTextOf_minusZeroText
  rintro (blank | notJson | ⟨object, notObject⟩ | ⟨object, declared, last, notNull, wrong⟩)
  · have notBlank := Payload.not_blank_of_isTextOf writes
    rw [List.all_eq_true.mpr blank] at notBlank
    cases notBlank
  · exact notJson ⟨_, writes⟩
  · exact notObject _ (object.unique writes)
  · rename_i key type v
    cases object.unique writes
    rw [← List.nil_append [_], Json.Members.last?_append_singleton] at last
    split at last
    · rename_i named
      obtain rfl := Key.name_injective named
      cases last
      have isInteger : (Key.blobSizeInBytes, Kind.integer 64) ∈ Inbound.notification.schema := by
        decide
      obtain rfl := Inbound.kind_unique declared isInteger
      exact wrong ⟨_, rfl, ⟨rfl, rfl⟩, ⟨0, by decide, by decide⟩, rfl⟩
    · cases last

end UploadMessages
