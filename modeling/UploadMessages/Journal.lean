import UploadMessages.Payload
import UploadMessages.Timestamp

/-! # Taking in messages

A message is built part by part. Each part is taken or rejected, and the rejection is
journalled for those who debug; messages that are accepted are journalled for those
who trace. Credentials and addresses of blobs are never in an entry.
-/

namespace UploadMessages

/-- A message is either built whole or rejected for one cause. -/
inductive Rejection
  | malformedPayload (fault : Payload.Fault)
  | invalidField (field : String) (fault : Field.Fault)
  | invalidTimestamp (text : String) (fault : Timestamp.Fault)
deriving DecidableEq, Repr

namespace Rejection

def message : Rejection → String
  | malformedPayload fault => "malformed payload: " ++ fault.message
  | invalidField field fault => "invalid field `" ++ field ++ "`: " ++ fault.message
  | invalidTimestamp text fault =>
    "invalid timestamp " ++ Text.quoted text ++ ": " ++ fault.message

end Rejection

inductive Level
  | debug
  | trace
deriving DecidableEq, Repr

def Level.name : Level → String
  | .debug => "DEBUG"
  | .trace => "TRACE"

inductive Event
  | payloadRejected (fault : Payload.Fault)
  | textFieldRejected (field : String) (fault : Field.Fault)
  | requiredFieldMissing (field : String)
  | timestampRejected (text : String) (fault : Timestamp.Fault)
  | notificationAccepted (deviceId blobName : FieldText) (blobSize : Signed 64)
  | responseAccepted (correlationId : FieldText)
  | statusUpdated (correlationId : FieldText) (isSuccess : Bool) (statusCode : Signed 32)
deriving DecidableEq, Repr

namespace Event

def level : Event → Level
  | payloadRejected _ | textFieldRejected .. | requiredFieldMissing _ | timestampRejected .. =>
    .debug
  | notificationAccepted .. | responseAccepted _ | statusUpdated .. => .trace

def message : Event → String
  | payloadRejected _ => "payload rejected"
  | textFieldRejected .. => "string field rejected"
  | requiredFieldMissing _ => "required field missing"
  | timestampRejected .. => "timestamp rejected"
  | notificationAccepted .. => "upload notification accepted"
  | responseAccepted _ => "upload response accepted"
  | statusUpdated .. => "upload status updated"

def fields : Event → List (String × Scalar)
  | payloadRejected fault => [("reason", .text fault.message)]
  | textFieldRejected field fault => [("field", .text field), ("fault", .text fault.message)]
  | requiredFieldMissing field => [("field", .text field)]
  | timestampRejected text fault =>
    [("error", .text (Rejection.invalidTimestamp text fault).message)]
  | notificationAccepted deviceId blobName blobSize =>
    [("device_id", .text deviceId.text), ("blob_name", .text blobName.text),
     ("blob_size_in_bytes", .integer blobSize.value)]
  | responseAccepted correlationId => [("correlation_id", .text correlationId.text)]
  | statusUpdated correlationId isSuccess statusCode =>
    [("correlation_id", .text correlationId.text), ("is_success", .flag isSuccess),
     ("status_code", .integer statusCode.value)]

end Event

/-- A result together with the events on the way to it. -/
structure Logged (α : Type) where
  result : Except Rejection α
  events : List Event

namespace Logged

variable {α β : Type}

def pure (a : α) : Logged α := ⟨.ok a, []⟩

/-- A rejection ends the way; nothing after it happens. -/
def bind (x : Logged α) (f : α → Logged β) : Logged β :=
  match x.result with
  | .ok a => ⟨(f a).result, x.events ++ (f a).events⟩
  | .error rejection => ⟨.error rejection, x.events⟩

instance : Monad Logged where
  pure := Logged.pure
  bind := Logged.bind

@[simp] theorem pure_eq (a : α) : (Pure.pure a : Logged α) = ⟨.ok a, []⟩ := rfl

@[simp] theorem bind_ok (a : α) (events : List Event) (f : α → Logged β) :
    (⟨.ok a, events⟩ : Logged α) >>= f = ⟨(f a).result, events ++ (f a).events⟩ := rfl

@[simp] theorem bind_error (rejection : Rejection) (events : List Event) (f : α → Logged β) :
    (⟨.error rejection, events⟩ : Logged α) >>= f = ⟨.error rejection, events⟩ := rfl

instance : LawfulMonad Logged := LawfulMonad.mk' Logged
  (by
    intro α x
    rcases x with ⟨_ | a, events⟩ <;> simp [Functor.map, Logged.bind, Logged.pure])
  (by
    intro α β a f
    simp)
  (by
    intro α β γ x f g
    rcases x with ⟨_ | a, events⟩
    · rfl
    · rcases h : f a with ⟨_ | b, events'⟩ <;> simp [h])

theorem exists_of_bind_ok {x : Logged α} {f : α → Logged β} {b : β}
    (h : (x >>= f).result = .ok b) : ∃ a, x.result = .ok a ∧ (f a).result = .ok b := by
  obtain ⟨rejection | a, events⟩ := x
  · cases h
  · exact ⟨a, rfl, h⟩

theorem result_bind_of_ok {x : Logged α} {a : α} (h : x.result = .ok a) (f : α → Logged β) :
    (x >>= f).result = (f a).result := by
  obtain ⟨rejection | a', events⟩ := x <;> cases h
  rfl

theorem result_bind_of_error {x : Logged α} {rejection : Rejection}
    (h : x.result = .error rejection) (f : α → Logged β) :
    (x >>= f).result = .error rejection := by
  obtain ⟨rejection' | a, events⟩ := x <;> cases h
  rfl

def note (event : Event) : Logged Unit := ⟨.ok (), [event]⟩

def reject (rejection : Rejection) (event : Event) : Logged α := ⟨.error rejection, [event]⟩

/-- The result of a check, its fault made a rejection and an event. -/
def ofCheck {ε : Type} (result : Except ε α) (rejection : ε → Rejection) (event : ε → Event) :
    Logged α :=
  match result with
  | .ok a => ⟨.ok a, []⟩
  | .error fault => reject (rejection fault) (event fault)

/-- A way that succeeds with the events of what it has made, or ends in a rejection and the one
event that journals it. -/
inductive Conforms (may : Rejection → Event → Prop) (done : α → List Event) : Logged α → Prop
  | accepted (a : α) : Conforms may done ⟨.ok a, done a⟩
  | rejected {rejection : Rejection} {event : Event} (h : may rejection event) :
    Conforms may done (.reject rejection event)

/-- A way that has no events but those of a rejection. -/
abbrev Checks (may : Rejection → Event → Prop) : Logged α → Prop := Conforms may fun _ => []

namespace Conforms

variable {may may' : Rejection → Event → Prop} {done : α → List Event} {x : Logged α}

theorem of_error (h : x.Conforms may done) {rejection : Rejection}
    (error : x.result = .error rejection) : ∃ event, may rejection event ∧ x.events = [event] := by
  cases h with
  | accepted => cases error
  | rejected of => cases error; exact ⟨_, of, rfl⟩

theorem mono (h : x.Conforms may done) (weaker : ∀ rejection event, may rejection event →
    may' rejection event) : x.Conforms may' done := by
  cases h with
  | accepted a => exact .accepted a
  | rejected of => exact .rejected (weaker _ _ of)

/-- The events of a way are those of its last part. -/
theorem bind {x : Logged β} (h : x.Checks may) {f : β → Logged α}
    (rest : ∀ b, (f b).Conforms may done) : (x >>= f).Conforms may done := by
  cases h with
  | accepted b => exact rest b
  | rejected of => exact .rejected of

theorem pure (a : α) : (Pure.pure a : Logged α).Checks may := .accepted a

theorem note {event : Event} {a : α} (h : done a = [event]) :
    (Logged.note event >>= fun _ => Pure.pure a).Conforms may done := by
  have accepted : (⟨.ok a, done a⟩ : Logged α).Conforms may done := .accepted a
  rw [h] at accepted
  exact accepted

theorem ofCheck {ε : Type} {result : Except ε α} {rejection : ε → Rejection} {event : ε → Event}
    (h : ∀ fault, result = .error fault → may (rejection fault) (event fault)) :
    (Logged.ofCheck result rejection event).Checks may := by
  cases result with
  | ok a => exact .accepted a
  | error fault => exact .rejected (h fault rfl)

end Conforms

end Logged

/-- The rejection of a field that a message declares, and the event that journals it. -/
inductive Rejection.OfField (schema : Schema) : Rejection → Event → Prop
  | text {key : Key} {fault : Field.Fault} (declared : (key, .text) ∈ schema) :
    OfField schema (.invalidField key.name fault) (.textFieldRejected key.name fault)
  | other {key : Key} {kind : Kind} (declared : (key, kind) ∈ schema) (noText : kind ≠ .text) :
    OfField schema (.invalidField key.name .missing) (.requiredFieldMissing key.name)

inductive Rejection.OfTime : Rejection → Event → Prop
  | intro (text : String) (fault : Timestamp.Fault) :
    OfTime (.invalidTimestamp text fault) (.timestampRejected text fault)

inductive Rejection.OfMembers (schema : Schema) (rejection : Rejection) (event : Event) : Prop
  | field (h : rejection.OfField schema event)
  | time (h : rejection.OfTime event)

/-- The rejection of a text that is to write a message, and the event that journals it. -/
inductive Rejection.OfText (schema : Schema) : Rejection → Event → Prop
  | payload (fault : Payload.Fault) :
    OfText schema (.malformedPayload fault) (.payloadRejected fault)
  | members {rejection : Rejection} {event : Event} (h : rejection.OfMembers schema event) :
    OfText schema rejection event

/-- A time as it is written, with the instant that it stands for. -/
structure Stamp (grammar : String → Except Timestamp.Fault Instant) where
  written : FieldText
  instant : Instant
  reads_written : grammar written.text = .ok instant
deriving DecidableEq

namespace Intake

def payload (schema : Schema) (text : String) : Logged Json.Members :=
  .ofCheck (Payload.members schema text) .malformedPayload .payloadRejected

/-- A text is taken for a field, which is named as the rejection is to name it. -/
def text (field : String) (value : Option String) : Logged FieldText :=
  .ofCheck (Field.text value) (.invalidField field) (.textFieldRejected field)

def present {α : Type} (field : String) (value : Option α) : Logged α :=
  .ofCheck (Field.present value) (.invalidField field) fun _ => .requiredFieldMissing field

def time (grammar : String → Except Timestamp.Fault Instant) (text : String) : Logged Instant :=
  .ofCheck (grammar text) (.invalidTimestamp text) (.timestampRejected text)

def stamp (grammar : String → Except Timestamp.Fault Instant) (written : FieldText) :
    Logged (Stamp grammar) :=
  match h : grammar written.text with
  | .ok instant => pure ⟨written, instant, h⟩
  | .error fault =>
    .reject (.invalidTimestamp written.text fault) (.timestampRejected written.text fault)

theorem text_of_fieldText (field : String) (t : FieldText) :
    text field (some t.text) = ⟨.ok t, []⟩ := by
  rw [text, Field.text_of_fieldText]
  rfl

theorem of_text_ok {field : String} {value : Option String} {t : FieldText}
    (h : (text field value).result = .ok t) : value = some t.text := by
  cases value with
  | none => cases h
  | some s =>
    simp only [text, Field.text, Logged.ofCheck] at h
    split at h
    · rename_i t' accepted
      split at accepted
      · cases accepted
      split at accepted
      · cases accepted
        cases h
        rfl
      · cases accepted
    · cases h

theorem of_present_ok {α : Type} {field : String} {value : Option α} {a : α}
    (h : (present field value).result = .ok a) : value = some a := by
  cases value with
  | none => cases h
  | some a' =>
    cases h
    rfl

theorem of_stamp_ok {grammar : String → Except Timestamp.Fault Instant} {written : FieldText}
    {s : Stamp grammar} (h : (stamp grammar written).result = .ok s) : s.written = written := by
  unfold stamp at h
  split at h
  · cases h
    rfl
  · cases h

section

variable {grammar : String → Except Timestamp.Fault Instant} {text : String}

theorem time_eq_ok_iff {i : Instant} :
    (time grammar text).result = .ok i ↔ grammar text = .ok i := by
  unfold time Logged.ofCheck
  split <;> simp_all [Logged.reject]

theorem time_eq_error_iff {rejection : Rejection} : (time grammar text).result = .error rejection ↔
    ∃ fault, rejection = .invalidTimestamp text fault ∧ grammar text = .error fault := by
  unfold time Logged.ofCheck
  split <;> simp_all [Logged.reject, eq_comm]

end

variable {schema : Schema} {key : Key}

theorem payload_checks (schema : Schema) (text : String) :
    (payload schema text).Checks (Rejection.OfText schema) :=
  .ofCheck fun fault _ => .payload fault

theorem text_checks (declared : (key, .text) ∈ schema) (value : Option String) :
    (text key.name value).Checks (Rejection.OfField schema) :=
  .ofCheck fun _ _ => .text declared

theorem present_checks {α : Type} {kind : Kind} (declared : (key, kind) ∈ schema)
    (noText : kind ≠ .text) (value : Option α) :
    (present key.name value).Checks (Rejection.OfField schema) := by
  cases value with
  | none => exact .rejected (.other declared noText)
  | some a => exact .accepted a

theorem time_checks (grammar : String → Except Timestamp.Fault Instant) (text : String) :
    (time grammar text).Checks Rejection.OfTime :=
  .ofCheck fun fault _ => .intro text fault

theorem stamp_checks (grammar : String → Except Timestamp.Fault Instant) (written : FieldText) :
    (stamp grammar written).Checks Rejection.OfTime := by
  unfold stamp
  split
  · exact .accepted _
  · exact .rejected (.intro written.text _)

end Intake

/-- What the text of a kind of message declares, and how a message is built from its members. -/
structure Form (α : Type) where
  schema : Schema
  ofMembers : Json.Members → Logged α

def Form.read {α : Type} (form : Form α) (text : String) : Logged α := do
  form.ofMembers (← Intake.payload form.schema text)

theorem Form.read_conforms {α : Type} {form : Form α} {done : α → List Event}
    (h : ∀ members, (form.ofMembers members).Conforms (Rejection.OfMembers form.schema) done)
    (text : String) : (form.read text).Conforms (Rejection.OfText form.schema) done :=
  .bind (Intake.payload_checks form.schema text) fun members =>
    (h members).mono fun _ _ => .members

end UploadMessages
