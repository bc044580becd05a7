import UploadMessages.Message.Request
import UploadMessages.Proofs.Steps

/-! # What the journal tells

Each rejection is journalled once, by the one entry that tells of it, wherever it is
found. An accepted notification, an accepted response and an update are journalled by
an entry of their own; all other successes are silent. The journal of a session is
that of its steps, one after another.
-/

namespace UploadMessages

structure Entry where
  level : Level
  message : String
  fields : List (String × Scalar)
deriving DecidableEq, Repr

def Event.entry (event : Event) : Entry := ⟨event.level, event.message, event.fields⟩

def Key.IsDeclared (key : Key) (kind : Kind) : Prop :=
  ∃ message : Inbound, (key, kind) ∈ message.schema

theorem Key.IsDeclared.unique {key : Key} {kind kind' : Kind} (h : key.IsDeclared kind)
    (h' : key.IsDeclared kind') : kind = kind' := by
  obtain ⟨message, declared⟩ := h
  obtain ⟨message', declared'⟩ := h'
  exact Inbound.kind_unique declared declared'

/-- The entry that tells of a rejection. -/
inductive Rejection.HasEntry : Rejection → Entry → Prop
  | payload {fault : Payload.Fault} :
    HasEntry (.malformedPayload fault)
      ⟨.debug, "payload rejected", [("reason", .text fault.message)]⟩
  | textField {key : Key} {fault : Field.Fault} (declared : key.IsDeclared .text) :
    HasEntry (.invalidField key.name fault)
      ⟨.debug, "string field rejected",
        [("field", .text key.name), ("fault", .text fault.message)]⟩
  | otherField {key : Key} {kind : Kind} (declared : key.IsDeclared kind) (noText : kind ≠ .text) :
    HasEntry (.invalidField key.name .missing)
      ⟨.debug, "required field missing", [("field", .text key.name)]⟩
  | timestamp {text : String} {fault : Timestamp.Fault} :
    HasEntry (.invalidTimestamp text fault)
      ⟨.debug, "timestamp rejected",
        [("error", .text (Rejection.invalidTimestamp text fault).message)]⟩

/-- No rejection can be told in two ways. -/
theorem Rejection.HasEntry.unique {rejection : Rejection} {entry entry' : Entry}
    (h : rejection.HasEntry entry) (h' : rejection.HasEntry entry') : entry = entry' := by
  generalize same : rejection = rejection' at h'
  cases h with
  | payload =>
    cases h' <;> cases same
    rfl
  | timestamp =>
    cases h' <;> cases same
    rfl
  | textField declared =>
    cases h' with
    | payload => cases same
    | textField =>
      injection same with name fault
      rw [name, fault]
    | otherField declared' noText =>
      injection same with name
      cases Key.name_injective name
      exact absurd (declared'.unique declared) noText
    | timestamp => cases same
  | otherField declared noText =>
    cases h' with
    | payload => cases same
    | textField declared' =>
      injection same with name
      cases Key.name_injective name
      exact absurd (declared.unique declared') noText
    | otherField =>
      injection same with name
      rw [name]
    | timestamp => cases same

namespace Rejection

variable {message : Inbound} {rejection : Rejection} {event : Event}

theorem OfField.hasEntry (h : rejection.OfField message.schema event) :
    rejection.HasEntry event.entry := by
  cases h with
  | text declared => exact .textField ⟨message, declared⟩
  | other declared noText => exact .otherField ⟨message, declared⟩ noText

theorem OfTime.hasEntry (h : rejection.OfTime event) : rejection.HasEntry event.entry := by
  cases h with
  | intro text fault => exact .timestamp

theorem OfText.hasEntry (h : rejection.OfText message.schema event) :
    rejection.HasEntry event.entry := by
  cases h with
  | payload fault => exact .payload
  | members h =>
    cases h with
    | field h => exact h.hasEntry
    | time h => exact h.hasEntry

end Rejection

namespace Logged

variable {α : Type}

/-- The events of a rejection are the one that tells of it, those of a success are as given. -/
def Accounts (x : Logged α) (accepted : α → List Entry) : Prop :=
  match x.result with
  | .ok a => x.events.map Event.entry = accepted a
  | .error rejection => ∃ entry, rejection.HasEntry entry ∧ x.events.map Event.entry = [entry]

abbrev Silent (x : Logged α) : Prop := x.Accounts fun _ => []

/-- A rejection is told by its event, if that is so of all that the checks may reject. -/
theorem Conforms.accounts {may : Rejection → Event → Prop} {done : α → List Event} {x : Logged α}
    (h : x.Conforms may done)
    (tells : ∀ {rejection event}, may rejection event → rejection.HasEntry event.entry) :
    x.Accounts fun a => (done a).map Event.entry := by
  cases h with
  | accepted a => rfl
  | rejected of => exact ⟨_, tells of, rfl⟩

end Logged

theorem Intake.silent_time (grammar : String → Except Timestamp.Fault Instant) (text : String) :
    (time grammar text).Silent :=
  (time_checks grammar text).accounts Rejection.OfTime.hasEntry

theorem Inbound.accounts_ofJson (kind : Inbound) (text : String) :
    (kind.ofJson text).Accounts fun m => (kind.events m).map Event.entry :=
  (kind.ofJson_conforms text).accounts Rejection.OfText.hasEntry

def Notification.entry (m : Notification) : Entry :=
  ⟨.trace, "upload notification accepted",
    [("device_id", .text m.deviceId.text), ("blob_name", .text m.blobName.text),
     ("blob_size_in_bytes", .integer m.blobSize.value)]⟩

theorem Notification.accounts_ofJson (text : String) :
    (ofJson text).Accounts fun m => [m.entry] :=
  Inbound.notification.accounts_ofJson text

def Response.entry (m : Response) : Entry :=
  ⟨.trace, "upload response accepted", [("correlation_id", .text m.correlationId.text)]⟩

theorem Response.accounts_ofJson (text : String) : (ofJson text).Accounts fun m => [m.entry] :=
  Inbound.response.accounts_ofJson text

namespace StatusReport

theorem silent_ofDraft (id : Option String) (draft : Outcome.Draft) : (ofDraft id draft).Silent :=
  (ofDraft_checks id draft).accounts fun of => @Rejection.OfField.hasEntry .statusReport _ _ of

theorem silent_ofJson (text : String) : (ofJson text).Silent :=
  Inbound.statusReport.accounts_ofJson text

/-- The entry that tells of an update, which made a report what it is. -/
def updateEntry (report : StatusReport) : Entry :=
  ⟨.trace, "upload status updated",
    [("correlation_id", .text report.correlationId.text),
     ("is_success", .flag report.outcome.isSuccess),
     ("status_code", .integer report.outcome.statusCode.value)]⟩

theorem accounts_update (report : StatusReport) (draft : Outcome.Draft) :
    (report.update draft).Accounts fun updated => [updated.updateEntry] :=
  (report.update_conforms draft).accounts fun of => @Rejection.OfField.hasEntry .statusReport _ _ of

end StatusReport

theorem Request.silent_ofBlobName (blobName : String) : (ofBlobName blobName).Silent := by
  have declared : (Key.blobName, Kind.text) ∈ Inbound.notification.schema := by decide
  exact (ofBlobName_checks declared blobName).accounts Rejection.OfField.hasEntry

namespace Session

/-- The entries that tell of a step. Of its events nothing is said. -/
inductive Tell : Step → List Entry → Prop
  | rejected {command : Command} {rejection : Rejection} {current : Option StatusReport}
    {events : List Event} {entry : Entry} (h : rejection.HasEntry entry) :
    Tell ⟨command, .error rejection, current, events⟩ [entry]
  | updated {draft : Outcome.Draft} {report : StatusReport} {events : List Event} :
    Tell ⟨.update draft, .ok (.written report.toJson), some report, events⟩ [report.updateEntry]
  | silent {command : Command} {reply : Reply} {current : Option StatusReport}
    {events : List Event} (other : (∀ draft, command ≠ .update draft) ∨ reply = .noReport) :
    Tell ⟨command, .ok reply, current, events⟩ []

def Turn.entries (turn : Turn) : List Entry := turn.events.map Event.entry

/-- What a turn journals tells of it, if the events of what is made account for that. -/
theorem tell_ofReport {current : Option StatusReport} {command : Command}
    {made : Logged StatusReport} {reply : StatusReport → Reply}
    {accepted : StatusReport → List Entry} (h : made.Accounts accepted)
    (tells : ∀ report events,
      Tell ⟨command, .ok (reply report), some report, events⟩ (accepted report)) :
    Tell ⟨command, .ofReport current made reply⟩ (Turn.ofReport current made reply).entries := by
  unfold Logged.Accounts at h
  unfold Turn.ofReport Turn.entries
  cases result : made.result with
  | error rejection =>
    rw [result] at h
    obtain ⟨entry, has, events⟩ := h
    simp only [events]
    exact .rejected has
  | ok report =>
    rw [result] at h
    simp only [h]
    exact tells report _

theorem tell_turn (current : Option StatusReport) (command : Command) :
    Tell ⟨command, turn current command⟩ (turn current command).entries := by
  cases command with
  | build id draft =>
    rw [turn_build]
    exact tell_ofReport (StatusReport.silent_ofDraft id draft) fun _ _ => .silent (.inl (by simp))
  | read json =>
    rw [turn_read]
    exact tell_ofReport (StatusReport.silent_ofJson json) fun _ _ => .silent (.inl (by simp))
  | update draft =>
    cases current with
    | none => exact .silent (.inr rfl)
    | some report =>
      rw [turn_update]
      exact tell_ofReport (report.accounts_update draft) fun _ _ => .updated
  | write => cases current <;> exact .silent (.inl (by simp))
  | inspect => cases current <;> exact .silent (.inl (by simp))

def journal (commands : List Command) : List Entry := (run none commands).flatMap Turn.entries

theorem tell_run (current : Option StatusReport) (commands : List Command) :
    List.Forall₂ Tell (List.zipWith Step.mk commands (run current commands))
      ((run current commands).map Turn.entries) := by
  induction commands generalizing current with
  | nil => exact .nil
  | cons command later ih => exact .cons (tell_turn current command) (ih _)

/-- The journal of a session is what its steps tell, one after another. -/
theorem journal_eq_flatten (commands : List Command) :
    ∃ parts, journal commands = parts.flatten ∧ List.Forall₂ Tell (steps commands) parts :=
  ⟨_, List.flatMap_def, tell_run none commands⟩

end Session

/-- Every rejection is journalled once, by the entry that tells of it. -/
theorem every_rejection_is_journalled_once :
    (∀ text, (Notification.ofJson text).Accounts fun m => [m.entry]) ∧
      (∀ text, (Response.ofJson text).Accounts fun m => [m.entry]) ∧
      (∀ text, (StatusReport.ofJson text).Silent) ∧
      (∀ id draft, (StatusReport.ofDraft id draft).Silent) ∧
      (∀ (report : StatusReport) draft,
        (report.update draft).Accounts fun updated => [updated.updateEntry]) ∧
      (∀ blobName, (Request.ofBlobName blobName).Silent) ∧
      (∀ text, (Intake.time Timestamp.utc text).Silent) ∧
      (∀ text, (Intake.time Timestamp.zoned text).Silent) ∧
      ∀ commands, ∃ parts, Session.journal commands = parts.flatten ∧
        List.Forall₂ Session.Tell (Session.steps commands) parts :=
  ⟨Notification.accounts_ofJson, Response.accounts_ofJson, StatusReport.silent_ofJson,
    StatusReport.silent_ofDraft, StatusReport.accounts_update, Request.silent_ofBlobName,
    Intake.silent_time Timestamp.utc, Intake.silent_time Timestamp.zoned,
    Session.journal_eq_flatten⟩

end UploadMessages
