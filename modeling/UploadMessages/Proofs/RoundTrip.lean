import UploadMessages.Proofs.Fields
import UploadMessages.Proofs.Json.Writer
import UploadMessages.Session

/-! # Status reports are read back

Whatever a session does, its current report is written as a text from which the
same report is read. A report can hold nothing that its text cannot, as its texts
are escaped and its code fits a literal.
-/

namespace UploadMessages

open Json (IsTextOf)

namespace StatusReport

theorem record_fits (report : StatusReport) :
    ∀ member ∈ report.record, Json.ScalarFits member.2 := by
  have bounds := Kind.signed_bounds (by decide) report.outcome.statusCode
  simp only [record, List.mem_cons, List.not_mem_nil, or_false, forall_eq_or_imp, forall_eq]
  exact ⟨trivial, trivial, bounds, trivial⟩

theorem isTextOf_toJson (report : StatusReport) :
    IsTextOf (.object report.record.toMembers) report.toJson.toList :=
  report.record.isTextOf_toString report.record_fits

theorem accept?_statusCode (code : Signed 32) :
    Kind.accept? (.integer 32) (.number (.ofInt code.value)) = some code := by
  obtain ⟨least, most⟩ := Kind.signed_bounds (by decide) code
  simp [Kind.accept?, Json.Literal.toInt?_ofInt least most, Signed.ofInt?_value]

theorem members_toJson (report : StatusReport) :
    Payload.members schema report.toJson = .ok report.record.toMembers := by
  have noText : Payload.mistyped? report.record.toMembers .correlationId .text = none := rfl
  have noFlag : Payload.mistyped? report.record.toMembers .isSuccess .flag = none := rfl
  have noDescription : Payload.mistyped? report.record.toMembers .statusDescription .text = none :=
    rfl
  have noCode : Payload.mistyped? report.record.toMembers .statusCode (.integer 32) = none := by
    have last : report.record.toMembers.last? Key.statusCode.name =
      some (.number (.ofInt report.outcome.statusCode.value)) := rfl
    simp only [Payload.mistyped?, last, accept?_statusCode]
  rw [Payload.members_of_isTextOf report.isTextOf_toJson]
  simp only [Payload.firstMistyped?, schema, List.findSome?_cons, List.findSome?_nil, noText,
    noFlag, noCode, noDescription]

/-- A report is built again from the members that are written of it. -/
theorem ofMembers_record (report : StatusReport) :
    ofMembers report.record.toMembers = ⟨.ok report, []⟩ := by
  have code : Payload.field? report.record.toMembers .statusCode (.integer 32) =
      some report.outcome.statusCode := accept?_statusCode report.outcome.statusCode
  change ofDraft (some report.correlationId.text)
    { isSuccess := some report.outcome.isSuccess
      statusCode := Payload.field? report.record.toMembers .statusCode (.integer 32)
      description := some report.outcome.description.text } = _
  rw [code]
  simp only [ofDraft, Outcome.ofDraft, Intake.text_of_fieldText]
  rfl

/-- A report is read back from its text, and nothing is journalled. -/
theorem ofJson_toJson (report : StatusReport) : ofJson report.toJson = ⟨.ok report, []⟩ := by
  have read := @Inbound.ofJson_of_members .statusReport _ _ report.members_toJson
  exact read.trans report.ofMembers_record

end StatusReport

namespace Session

def final (current : Option StatusReport) : List Command → Option StatusReport
  | [] => current
  | command :: later => final (turn current command).current later

theorem run_append (current : Option StatusReport) (before later : List Command) :
    run current (before ++ later) = run current before ++ run (final current before) later := by
  induction before generalizing current with
  | nil => rfl
  | cons command before ih => simp [run, final, ih]

theorem turn_read_toJson (current : Option StatusReport) (report : StatusReport) :
    turn current (.read report.toJson) = ⟨.ok .built, some report, []⟩ := by
  rw [turn_read, report.ofJson_toJson]
  rfl

/-- The current report of a session is read back from its text, and the session goes on as if it
had not been written and read: the same report is shown, and the same text is written again. -/
theorem current_report_round_trip {commands : List Command} {report : StatusReport}
    (reached : final none commands = some report) :
    StatusReport.ofJson report.toJson = ⟨.ok report, []⟩ ∧
      run none (commands ++ [.write, .read report.toJson, .inspect, .write]) =
        run none commands ++
          [⟨.ok (.written report.toJson), some report, []⟩, ⟨.ok .built, some report, []⟩,
           ⟨.ok (.shown report), some report, []⟩,
           ⟨.ok (.written report.toJson), some report, []⟩] := by
  refine ⟨report.ofJson_toJson, ?_⟩
  rw [run_append, reached]
  simp only [run, turn_write, turn_read_toJson, turn_inspect]

/-- A report is built, in vain updated without a code and then updated. -/
def updatingCommands : List Command :=
  [.build (some "\x01\"id\"\\") ⟨some true, some ⟨200, by decide, by decide⟩, some "ok"⟩,
   .update ⟨some false, none, some "lost"⟩,
   .update ⟨some false, some ⟨-2147483648, by decide, by decide⟩, some "\x00\n\x1f/\x7f"⟩]

def updatedReport : StatusReport :=
  { correlationId := ⟨"\x01\"id\"\\", by decide, by decide⟩
    outcome :=
      { isSuccess := false
        statusCode := ⟨-2147483648, by decide, by decide⟩
        description := ⟨"\x00\n\x1f/\x7f", by decide, by decide⟩ } }

theorem current_report_round_trip_updatedReport :
    StatusReport.ofJson updatedReport.toJson = ⟨.ok updatedReport, []⟩ := by
  have reached : final none updatingCommands = some updatedReport := by decide +kernel
  exact (current_report_round_trip reached).1

end Session

end UploadMessages
