import UploadMessages.Message.Notification
import UploadMessages.Message.Response
import UploadMessages.Session
import UploadMessages.Proofs.Payload

/-! # The messages that are read

Three kinds of message are read from texts, each by its form. What holds of the
reading of all of them is stated once, of the kind.
-/

namespace UploadMessages

inductive Inbound
  | notification
  | response
  | statusReport
deriving DecidableEq, Repr

namespace Inbound

abbrev Message : Inbound → Type
  | .notification => Notification
  | .response => Response
  | .statusReport => StatusReport

def ofJson : (kind : Inbound) → (text : String) → Logged kind.Message
  | .notification => Notification.ofJson
  | .response => Response.ofJson
  | .statusReport => StatusReport.ofJson

def form : (kind : Inbound) → Form kind.Message
  | .notification => Notification.form
  | .response => Response.form
  | .statusReport => StatusReport.form

/-- The keys that a kind of message reads, and the kinds of value declared for them. -/
def schema (kind : Inbound) : Schema := kind.form.schema

theorem ofJson_eq_read (kind : Inbound) (text : String) :
    kind.ofJson text = kind.form.read text := by
  cases kind <;> rfl

theorem isNarrow_of_mem_schema (kind : Inbound) : ∀ entry ∈ kind.schema, entry.2.IsNarrow := by
  cases kind with
  | notification => exact Notification.forall_mem_schema.mpr (by simp [Kind.IsNarrow])
  | response => exact Response.forall_mem_schema.mpr (by simp [Kind.IsNarrow])
  | statusReport => exact StatusReport.forall_mem_schema.mpr (by simp [Kind.IsNarrow])

/-- All messages that have a key declare the same kind of value for it. -/
theorem kind_unique {message message' : Inbound} {key : Key} {kind kind' : Kind}
    (h : (key, kind) ∈ message.schema) (h' : (key, kind') ∈ message'.schema) : kind = kind' := by
  have agree : ∀ entry ∈ message.schema, ∀ entry' ∈ message'.schema,
      entry.1 = entry'.1 → entry.2 = entry'.2 := by
    cases message <;> cases message' <;> decide
  exact agree _ h _ h' rfl

def events : (kind : Inbound) → kind.Message → List Event
  | .notification, m => [m.event]
  | .response, m => [m.event]
  | .statusReport, _ => []

theorem ofMembers_conforms (kind : Inbound) (ms : Json.Members) :
    (kind.form.ofMembers ms).Conforms (Rejection.OfMembers kind.schema) kind.events := by
  cases kind with
  | notification => exact Notification.ofMembers_conforms ms
  | response => exact Response.ofMembers_conforms ms
  | statusReport => exact StatusReport.ofMembers_checks ms

theorem ofJson_conforms (kind : Inbound) (text : String) :
    (kind.ofJson text).Conforms (Rejection.OfText kind.schema) kind.events := by
  rw [ofJson_eq_read]
  exact Form.read_conforms kind.ofMembers_conforms text

/-- Once the members are known, the payload is not blamed any more. -/
theorem ofMembers_ne_malformed (kind : Inbound) (ms : Json.Members) (fault : Payload.Fault) :
    (kind.form.ofMembers ms).result ≠ .error (.malformedPayload fault) := by
  intro blamed
  obtain ⟨event, of, -⟩ := (kind.ofMembers_conforms ms).of_error blamed
  cases of with
  | field h => cases h
  | time h => cases h

theorem ofJson_of_members {kind : Inbound} {text : String} {ms : Json.Members}
    (h : Payload.members kind.schema text = .ok ms) :
    kind.ofJson text = kind.form.ofMembers ms := by
  rw [ofJson_eq_read]
  simp only [schema] at h
  simp [Form.read, Intake.payload, Logged.ofCheck, h]

theorem ofJson_of_fault {kind : Inbound} {text : String} {fault : Payload.Fault}
    (h : Payload.members kind.schema text = .error fault) :
    kind.ofJson text = .reject (.malformedPayload fault) (.payloadRejected fault) := by
  rw [ofJson_eq_read]
  simp only [schema] at h
  simp [Form.read, Intake.payload, Logged.ofCheck, h, Logged.reject]

/-- A text of an object is rejected for its first value of a wrong kind, or read from its
members. -/
theorem ofJson_of_isTextOf {kind : Inbound} {text : String} {ms : Json.Members}
    (writes : Json.IsTextOf (.object ms) text.toList) :
    kind.ofJson text = match Payload.firstMistyped? kind.schema ms with
      | some fault => .reject (.malformedPayload fault) (.payloadRejected fault)
      | none => kind.form.ofMembers ms := by
  have read := @Payload.members_of_isTextOf kind.schema text ms writes
  split
  · rename_i fault found
    rw [found] at read
    exact ofJson_of_fault read
  · rename_i found
    rw [found] at read
    exact ofJson_of_members read

/-- A message is accepted from members of which each is null or of its kind. -/
theorem exists_members_of_accepted {kind : Inbound} {text : String} {m : kind.Message}
    (h : (kind.ofJson text).result = .ok m) :
    ∃ ms, Json.IsTextOf (.object ms) text.toList ∧ Payload.Typed kind.schema ms ∧
      (kind.form.ofMembers ms).result = .ok m := by
  cases read : Payload.members kind.schema text with
  | error fault =>
    rw [ofJson_of_fault read] at h
    cases h
  | ok ms =>
    obtain ⟨writes, typed⟩ := (Payload.members_eq_ok_iff kind.isNarrow_of_mem_schema).mp read
    rw [ofJson_of_members read] at h
    exact ⟨ms, writes, typed, h⟩

/-- A text is rejected as malformed just for a fault of its payload. -/
theorem rejects_iff {kind : Inbound} {text : String} {fault : Payload.Fault} :
    (kind.ofJson text).result = .error (.malformedPayload fault) ↔
      Payload.members kind.schema text = .error fault := by
  constructor
  · intro h
    cases read : Payload.members kind.schema text with
    | error fault' =>
      rw [ofJson_of_fault read] at h
      cases h
      rfl
    | ok ms =>
      rw [ofJson_of_members read] at h
      exact absurd h (kind.ofMembers_ne_malformed ms fault)
  · intro read
    rw [ofJson_of_fault read]
    rfl

end Inbound

end UploadMessages
