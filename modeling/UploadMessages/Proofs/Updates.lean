import UploadMessages.Proofs.Steps

/-! # An update makes a new report

An update comes to what the building of a report with the same correlation id and the same draft
comes to: the same refusal, or the same report. A report keeps of its past nothing but the id, so a
session goes on after the one as it goes on after the other.
-/

namespace UploadMessages

theorem Rejection.OfField.exists_invalidField {schema : Schema} {rejection : Rejection}
    {event : Event} (h : rejection.OfField schema event) :
    ∃ field fault, rejection = .invalidField field fault := by
  cases h with
  | text => exact ⟨_, _, rfl⟩
  | other => exact ⟨_, _, rfl⟩

namespace StatusReport

variable (report : StatusReport) (draft : Outcome.Draft)

/-- The id of a report is accepted again, so that only the draft is checked. -/
theorem ofDraft_correlationId : ofDraft (some report.correlationId.text) draft = do
    let outcome ← Outcome.ofDraft draft
    return { report with outcome } := by
  rw [ofDraft, Intake.text_of_fieldText]
  rfl

/-- A draft is refused as an update and as a new report, or makes one report of both. -/
theorem update_or_ofDraft :
    (∃ rejection event, rejection.OfField schema event ∧
      report.update draft = .reject rejection event ∧
      ofDraft (some report.correlationId.text) draft = .reject rejection event) ∨
    ∃ fresh events, report.update draft = ⟨.ok fresh, events⟩ ∧
      ofDraft (some report.correlationId.text) draft = ⟨.ok fresh, []⟩ := by
  have checks := outcome_checks draft
  rw [ofDraft_correlationId, update]
  generalize Outcome.ofDraft draft = checked at checks
  cases checks with
  | accepted outcome => exact .inr ⟨{ report with outcome }, _, rfl, rfl⟩
  | @rejected rejection event of => exact .inl ⟨rejection, event, of, rfl, rfl⟩

end StatusReport

namespace Session

variable {report : StatusReport}

/-- However the report of a session has come about, an update of it and the building of a report
with its id, here or in any other session, are refused alike or lead to the same report, with the
same text and the same continuations. -/
theorem update_makes_new_report {past : List Command} (reached : final none past = some report)
    (draft : Outcome.Draft) (other : Option StatusReport) :
    let updated := (taken past (.update draft)).turn
    let built := turn other (.build (some report.correlationId.text) draft)
    (∀ rejection, updated.answer = .error rejection ↔ built.answer = .error rejection) ∧
    (∀ rejection, updated.answer = .error rejection →
      (∃ field fault, rejection = .invalidField field fault) ∧ updated.events = built.events ∧
        updated.current = some report ∧ built.current = other) ∧
    ∀ reply, built.answer = .ok reply → ∃ fresh : StatusReport,
      StatusReport.ofDraft (some report.correlationId.text) draft = ⟨.ok fresh, []⟩ ∧
        built.current = some fresh ∧ updated.current = some fresh ∧
        updated.answer = .ok (.written fresh.toJson) ∧
        (turn updated.current .write).answer = updated.answer ∧
        (turn built.current .write).answer = updated.answer ∧
        ∀ later, run updated.current later = run built.current later := by
  intro updated built
  have here : updated = turn (some report) (.update draft) := by
    simp only [updated, taken, reached]
  rcases report.update_or_ofDraft draft with
    ⟨rejection, event, of, updates, builds⟩ | ⟨fresh, events, updates, builds⟩
  · have refused : updated = ⟨.error rejection, some report, [event]⟩ := by
      rw [here, turn_update, updates]
      rfl
    have refused' : built = ⟨.error rejection, other, [event]⟩ := by
      simp only [built, turn_build, builds]
      rfl
    rw [refused, refused']
    refine ⟨fun _ => Iff.rfl, ?_, ?_⟩
    · rintro rejection ⟨⟩
      exact ⟨of.exists_invalidField, rfl, rfl, rfl⟩
    · rintro reply ⟨⟩
  · have accepted : updated = ⟨.ok (.written fresh.toJson), some fresh, events⟩ := by
      rw [here, turn_update, updates]
      rfl
    have accepted' : built = ⟨.ok .built, some fresh, []⟩ := by
      simp only [built, turn_build, builds]
      rfl
    rw [accepted, accepted']
    refine ⟨by simp, ?_, ?_⟩
    · rintro rejection ⟨⟩
    · intro reply _
      exact ⟨fresh, builds, rfl, rfl, rfl, rfl, rfl, fun _ => rfl⟩

/-- Of a report with an eventful past an update leaves the id alone, and a description that is no
text of single bytes is refused as it is for a new report. -/
theorem update_makes_new_report_updatedReport :
    let id := updatedReport.correlationId.text
    let success : Outcome.Draft := ⟨some true, some ⟨200, by decide, by decide⟩, some "\n"⟩
    let multiByte : Outcome.Draft := ⟨some true, some ⟨200, by decide, by decide⟩, some "é"⟩
    (∀ later, run (taken updatingCommands (.update success)).turn.current later =
      run (turn none (.build (some id) success)).current later) ∧
    (taken updatingCommands (.update multiByte)).turn.answer =
      .error (.invalidField Key.statusDescription.name .multiByte) := by
  intro id success multiByte
  have reached : final none updatingCommands = some updatedReport := by decide +kernel
  constructor
  · have built : (turn none (.build (some id) success)).answer = .ok .built := by decide +kernel
    obtain ⟨-, -, made⟩ := update_makes_new_report reached success none
    obtain ⟨fresh, -, -, -, -, -, -, continued⟩ := made _ built
    exact continued
  · have refused : (turn none (.build (some id) multiByte)).answer =
        .error (.invalidField Key.statusDescription.name .multiByte) := by decide +kernel
    exact ((update_makes_new_report reached multiByte none).1 _).mpr refused

end Session

end UploadMessages
