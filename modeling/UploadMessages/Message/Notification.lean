import UploadMessages.Journal

/-! # Upload notifications

A notification says that a device has uploaded a blob.
-/

namespace UploadMessages

structure Notification where
  deviceId : FieldText
  blobUri : FieldText
  blobName : FieldText
  lastUpdated : Stamp Timestamp.zoned
  blobSize : Signed 64
  enqueued : Stamp Timestamp.utc
deriving DecidableEq

namespace Notification

def schema : Schema :=
  [(.blobName, .text), (.blobSizeInBytes, .integer 64), (.blobUri, .text), (.deviceId, .text),
   (.enqueuedTimeUtc, .text), (.lastUpdatedTime, .text)]

theorem forall_mem_schema {P : Key × Kind → Prop} : (∀ entry ∈ schema, P entry) ↔
    P (.blobName, .text) ∧ P (.blobSizeInBytes, .integer 64) ∧ P (.blobUri, .text) ∧
      P (.deviceId, .text) ∧ P (.enqueuedTimeUtc, .text) ∧ P (.lastUpdatedTime, .text) := by
  simp [schema]

/-- Fields are checked before times, and the time of queueing before that of the update. -/
def ofMembers (members : Json.Members) : Logged Notification := do
  let deviceId ← field .deviceId
  let blobUri ← field .blobUri
  let blobName ← field .blobName
  let enqueuedTimeUtc ← field .enqueuedTimeUtc
  let lastUpdatedTime ← field .lastUpdatedTime
  let blobSize ← Intake.present Key.blobSizeInBytes.name
    (Payload.field? members .blobSizeInBytes (.integer 64))
  let enqueued ← Intake.stamp Timestamp.utc enqueuedTimeUtc
  let lastUpdated ← Intake.stamp Timestamp.zoned lastUpdatedTime
  Logged.note (.notificationAccepted deviceId blobName blobSize)
  return { deviceId, blobUri, blobName, lastUpdated, blobSize, enqueued }
where
  field (key : Key) : Logged FieldText :=
    Intake.text key.name (Payload.field? members key .text)

/-- The event that journals an accepted notification. -/
def event (m : Notification) : Event := .notificationAccepted m.deviceId m.blobName m.blobSize

theorem ofMembers_conforms (members : Json.Members) :
    (ofMembers members).Conforms (Rejection.OfMembers schema) fun m => [m.event] := by
  have field {key : Key} (declared : (key, .text) ∈ schema) :
      (ofMembers.field members key).Checks (Rejection.OfMembers schema) :=
    (Intake.text_checks declared _).mono fun _ _ => .field
  have declared : (Key.blobSizeInBytes, Kind.integer 64) ∈ schema := by decide
  have size (value : Option (Signed 64)) :
      (Intake.present Key.blobSizeInBytes.name value).Checks (Rejection.OfMembers schema) :=
    (Intake.present_checks declared (by decide) value).mono fun _ _ => .field
  have stamp (grammar : String → Except Timestamp.Fault Instant) (written : FieldText) :
      (Intake.stamp grammar written).Checks (Rejection.OfMembers schema) :=
    (Intake.stamp_checks grammar written).mono fun _ _ => .time
  apply Logged.Conforms.bind (field (by decide)); intro deviceId
  apply Logged.Conforms.bind (field (by decide)); intro blobUri
  apply Logged.Conforms.bind (field (by decide)); intro blobName
  apply Logged.Conforms.bind (field (by decide)); intro enqueuedTimeUtc
  apply Logged.Conforms.bind (field (by decide)); intro lastUpdatedTime
  apply Logged.Conforms.bind (size _); intro blobSize
  apply Logged.Conforms.bind (stamp _ _); intro enqueued
  apply Logged.Conforms.bind (stamp _ _); intro lastUpdated
  exact .note rfl

def form : Form Notification := ⟨schema, ofMembers⟩

def ofJson (text : String) : Logged Notification := form.read text

end Notification

end UploadMessages
