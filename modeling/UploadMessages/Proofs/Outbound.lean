import UploadMessages.Message.Request
import UploadMessages.Proofs.Json.OneLine
import UploadMessages.Proofs.Steps

/-! # What goes out

Requests and status reports are written in one line each, whatever their texts hold. From the
line of a request the name of its blob is read back.
-/

namespace UploadMessages

open Json (OneLine)

theorem Key.narrow_name (k : Key) : Text.Narrow k.name.toList := by
  rw [Text.narrow_toList_iff]
  cases k <;> decide

namespace Request

theorem record_narrow (r : Request) : r.record.Narrow := by
  rw [Json.Record.Narrow, record, List.forall_mem_singleton]
  exact ⟨Key.narrow_name _, r.blobName.plain.2⟩

theorem isTextOf_toJson (r : Request) :
    Json.IsTextOf (.object [(Key.blobName.name, .text r.blobName.text)]) r.toJson.toList :=
  r.record.isTextOf_toString (List.forall_mem_singleton.mpr trivial)

end Request

theorem StatusReport.record_narrow (report : StatusReport) : report.record.Narrow := by
  simp only [Json.Record.Narrow, record, List.mem_cons, List.not_mem_nil, or_false,
    forall_eq_or_imp, forall_eq]
  exact ⟨⟨Key.narrow_name _, report.correlationId.plain.2⟩, ⟨Key.narrow_name _, trivial⟩,
    ⟨Key.narrow_name _, trivial⟩, ⟨Key.narrow_name _, report.outcome.description.plain.2⟩⟩

/-- The line of a request is read as an object whose only member is the name of the blob. All that
requests, reports and sessions write is in one line. -/
theorem outbound_texts_are_one_line :
    (∀ name request, (Request.ofBlobName name).result = .ok request →
      Json.read request.toJson.toList = .ok (.object [(Key.blobName.name, .text name)])) ∧
    (∀ request : Request, OneLine request.toJson.toList) ∧
    (∀ report : StatusReport, OneLine report.toJson.toList) ∧
    ∀ commands, ∀ turn ∈ Session.run none commands, ∀ json,
      turn.answer = .ok (.written json) → OneLine json.toList := by
  have reports (report : StatusReport) : OneLine report.toJson.toList :=
    Json.Record.oneLine_toString report.record_narrow
  refine ⟨?_, fun request => Json.Record.oneLine_toString request.record_narrow, reports, ?_⟩
  · intro name request accepted
    obtain rfl := Request.of_ofBlobName_ok accepted
    exact Json.read_of_isTextOf request.isTextOf_toJson
  · intro commands turn mem json answer
    obtain ⟨current, command, rfl⟩ := Session.exists_of_mem_run mem
    obtain ⟨report, -, rfl⟩ := (Session.effect_turn current command).writes answer
    exact reports report

/-- Quotes, backslashes and control characters next to each other are all read back. -/
theorem outbound_texts_are_one_line_mixedName :
    let name := "\\\"\\\\\x00\x1f\n\"\x08\\u0041 \x7f"
    let request : Request := ⟨name, by decide, by decide⟩
    request.toJson = "\x7b\"blobName\":\"\\\\\\\"\\\\\\\\\\u0000\\u001f\\n\\\"\\b\\\\u0041 \x7f\"\x7d" ∧
      Json.read request.toJson.toList = .ok (.object [(Key.blobName.name, .text name)]) := by
  intro name request
  exact ⟨by decide, outbound_texts_are_one_line.1 name request (by decide)⟩

end UploadMessages
