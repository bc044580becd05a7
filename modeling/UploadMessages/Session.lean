import UploadMessages.Journal

/-! # Sessions on a status report

A status report says how the upload of a correlation id went. The id is fixed; the
outcome may be replaced, but only as a whole.

A session holds at most one status report, its current one, and obeys commands on it
in turn. A command that is rejected leaves the current report as it was.
-/

namespace UploadMessages

structure Outcome where
  isSuccess : Bool
  statusCode : Signed 32
  description : FieldText
deriving DecidableEq, Repr

namespace Outcome

/-- What an outcome is to be built from, as far as it is known. -/
structure Draft where
  isSuccess : Option Bool
  statusCode : Option (Signed 32)
  description : Option String
deriving DecidableEq, Repr

def ofDraft (draft : Draft) : Logged Outcome := do
  let isSuccess ← Intake.present Key.isSuccess.name draft.isSuccess
  let statusCode ← Intake.present Key.statusCode.name draft.statusCode
  let description ← Intake.text Key.statusDescription.name draft.description
  return { isSuccess, statusCode, description }

theorem of_ofDraft_ok {draft : Draft} {outcome : Outcome}
    (h : (ofDraft draft).result = .ok outcome) :
    draft = ⟨some outcome.isSuccess, some outcome.statusCode, some outcome.description.text⟩ := by
  obtain ⟨isSuccess, hi, h⟩ := Logged.exists_of_bind_ok h
  obtain ⟨statusCode, hs, h⟩ := Logged.exists_of_bind_ok h
  obtain ⟨description, hd, h⟩ := Logged.exists_of_bind_ok h
  cases h
  obtain ⟨flag, code, text⟩ := draft
  rw [Draft.mk.injEq]
  exact ⟨Intake.of_present_ok hi, Intake.of_present_ok hs, Intake.of_text_ok hd⟩

end Outcome

structure StatusReport where
  correlationId : FieldText
  outcome : Outcome
deriving DecidableEq, Repr

namespace StatusReport

def schema : Schema :=
  [(.correlationId, .text), (.isSuccess, .flag), (.statusCode, .integer 32),
   (.statusDescription, .text)]

theorem forall_mem_schema {P : Key × Kind → Prop} : (∀ entry ∈ schema, P entry) ↔
    P (.correlationId, .text) ∧ P (.isSuccess, .flag) ∧ P (.statusCode, .integer 32) ∧
      P (.statusDescription, .text) := by
  simp [schema]

def ofDraft (correlationId : Option String) (draft : Outcome.Draft) : Logged StatusReport := do
  let correlationId ← Intake.text Key.correlationId.name correlationId
  let outcome ← Outcome.ofDraft draft
  return { correlationId, outcome }

theorem of_ofDraft_ok {id : Option String} {draft : Outcome.Draft} {report : StatusReport}
    (h : (ofDraft id draft).result = .ok report) :
    id = some report.correlationId.text ∧ (Outcome.ofDraft draft).result = .ok report.outcome := by
  obtain ⟨correlationId, hc, h⟩ := Logged.exists_of_bind_ok h
  obtain ⟨outcome, ho, h⟩ := Logged.exists_of_bind_ok h
  cases h
  exact ⟨Intake.of_text_ok hc, ho⟩

def ofMembers (members : Json.Members) : Logged StatusReport :=
  ofDraft (Payload.field? members .correlationId .text)
    { isSuccess := Payload.field? members .isSuccess .flag
      statusCode := Payload.field? members .statusCode (.integer 32)
      description := Payload.field? members .statusDescription .text }

theorem outcome_checks (draft : Outcome.Draft) :
    (Outcome.ofDraft draft).Checks (Rejection.OfField schema) := by
  have isSuccess : (Key.isSuccess, Kind.flag) ∈ schema := by decide
  have statusCode : (Key.statusCode, Kind.integer 32) ∈ schema := by decide
  have description : (Key.statusDescription, Kind.text) ∈ schema := by decide
  apply Logged.Conforms.bind (Intake.present_checks isSuccess (by decide) _); intro isSuccess
  apply Logged.Conforms.bind (Intake.present_checks statusCode (by decide) _); intro statusCode
  apply Logged.Conforms.bind (Intake.text_checks description _); intro description
  exact .pure _

theorem ofDraft_checks (correlationId : Option String) (draft : Outcome.Draft) :
    (ofDraft correlationId draft).Checks (Rejection.OfField schema) := by
  apply Logged.Conforms.bind (Intake.text_checks (by decide) correlationId); intro correlationId
  apply Logged.Conforms.bind (outcome_checks draft); intro outcome
  exact .pure _

theorem ofMembers_checks (members : Json.Members) :
    (ofMembers members).Checks (Rejection.OfMembers schema) :=
  (ofDraft_checks _ _).mono fun _ _ => .field

def form : Form StatusReport := ⟨schema, ofMembers⟩

def ofJson (text : String) : Logged StatusReport := form.read text

def update (report : StatusReport) (draft : Outcome.Draft) : Logged StatusReport := do
  let outcome ← Outcome.ofDraft draft
  Logged.note (.statusUpdated report.correlationId outcome.isSuccess outcome.statusCode)
  return { report with outcome }

theorem of_update_ok {report report' : StatusReport} {draft : Outcome.Draft}
    (h : (report.update draft).result = .ok report') :
    report'.correlationId = report.correlationId ∧
      (Outcome.ofDraft draft).result = .ok report'.outcome := by
  obtain ⟨outcome, ho, h⟩ := Logged.exists_of_bind_ok h
  obtain ⟨_, -, h⟩ := Logged.exists_of_bind_ok h
  cases h
  exact ⟨rfl, ho⟩

/-- The event that journals the update that led to a report. -/
def event (report : StatusReport) : Event :=
  .statusUpdated report.correlationId report.outcome.isSuccess report.outcome.statusCode

theorem update_conforms (report : StatusReport) (draft : Outcome.Draft) :
    (report.update draft).Conforms (Rejection.OfField schema) fun updated => [updated.event] := by
  apply Logged.Conforms.bind (outcome_checks draft); intro outcome
  exact .note rfl

def record (report : StatusReport) : Json.Record :=
  [(Key.correlationId.name, .text report.correlationId.text),
   (Key.isSuccess.name, .flag report.outcome.isSuccess),
   (Key.statusCode.name, .integer report.outcome.statusCode.value),
   (Key.statusDescription.name, .text report.outcome.description.text)]

def toJson (report : StatusReport) : String := report.record.toString

end StatusReport

namespace Session

inductive Command
  | build (correlationId : Option String) (draft : Outcome.Draft)
  | read (json : String)
  | update (draft : Outcome.Draft)
  | write
  | inspect
deriving DecidableEq, Repr

inductive Reply
  | built
  | written (json : String)
  | shown (report : StatusReport)
  | noReport
deriving DecidableEq, Repr

/-- What a command makes of the current report, and its reply. -/
def obey (current : Option StatusReport) (command : Command) :
    Logged (Option StatusReport × Reply) :=
  match command, current with
  | .build correlationId draft, _ => do
    return (some (← StatusReport.ofDraft correlationId draft), .built)
  | .read json, _ => do return (some (← StatusReport.ofJson json), .built)
  | .update _, none | .write, none | .inspect, none => return (none, .noReport)
  | .update draft, some report => do
    let report ← report.update draft
    return (some report, .written report.toJson)
  | .write, some report => return (some report, .written report.toJson)
  | .inspect, some report => return (some report, .shown report)

/-- A command's answer, the current report after it and the events during it. -/
structure Turn where
  answer : Except Rejection Reply
  current : Option StatusReport
  events : List Event

def turn (current : Option StatusReport) (command : Command) : Turn :=
  let obeyed := obey current command
  match obeyed.result with
  | .ok (next, reply) => ⟨.ok reply, next, obeyed.events⟩
  | .error rejection => ⟨.error rejection, current, obeyed.events⟩

/-- The turn of a command that makes a report: if one comes about, it is the current one. -/
def Turn.ofReport (current : Option StatusReport) (made : Logged StatusReport)
    (reply : StatusReport → Reply) : Turn :=
  match made.result with
  | .ok report => ⟨.ok (reply report), some report, made.events⟩
  | .error rejection => ⟨.error rejection, current, made.events⟩

section

variable (current : Option StatusReport) (report : StatusReport)

theorem turn_ofReport {command : Command} {made : Logged StatusReport}
    {reply : StatusReport → Reply}
    (h : obey current command = do let report ← made; return (some report, reply report)) :
    turn current command = .ofReport current made reply := by
  rw [turn, h, Turn.ofReport]
  rcases made with ⟨_ | report, events⟩ <;> simp

theorem turn_build (correlationId : Option String) (draft : Outcome.Draft) :
    turn current (.build correlationId draft) =
      .ofReport current (StatusReport.ofDraft correlationId draft) fun _ => .built :=
  turn_ofReport current rfl

theorem turn_read (json : String) : turn current (.read json) =
    .ofReport current (StatusReport.ofJson json) fun _ => .built :=
  turn_ofReport current rfl

theorem turn_update (draft : Outcome.Draft) : turn (some report) (.update draft) =
    .ofReport (some report) (report.update draft) fun updated => .written updated.toJson :=
  turn_ofReport (some report) rfl

theorem turn_write : turn (some report) .write = ⟨.ok (.written report.toJson), some report, []⟩ :=
  rfl

theorem turn_inspect : turn (some report) .inspect = ⟨.ok (.shown report), some report, []⟩ := rfl

/-- The command builds a report of its own. -/
def Command.Founds : Command → Prop
  | .build .. | .read _ => True
  | .update _ | .write | .inspect => False

theorem turn_none (command : Command) (h : ¬command.Founds) :
    turn none command = ⟨.ok .noReport, none, []⟩ := by
  cases command with
  | build => exact absurd trivial h
  | read => exact absurd trivial h
  | update => rfl
  | write => rfl
  | inspect => rfl

end

/-- The turns of a session that begins with some current report, if any. -/
def run (current : Option StatusReport) : List Command → List Turn
  | [] => []
  | command :: later =>
    let first := turn current command
    first :: run first.current later

end Session

end UploadMessages
