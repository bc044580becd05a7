import UploadMessages.Journal

/-! # Upload responses

A response says where a blob may be uploaded, and grants the access.
-/

namespace UploadMessages

structure Response where
  correlationId : FieldText
  hostName : FieldText
  containerName : FieldText
  blobName : FieldText
  sasToken : FieldText
deriving DecidableEq, Repr

namespace Response

def schema : Schema :=
  [(.blobName, .text), (.containerName, .text), (.correlationId, .text), (.hostName, .text),
   (.sasToken, .text)]

theorem forall_mem_schema {P : Key × Kind → Prop} : (∀ entry ∈ schema, P entry) ↔
    P (.blobName, .text) ∧ P (.containerName, .text) ∧ P (.correlationId, .text) ∧
      P (.hostName, .text) ∧ P (.sasToken, .text) := by
  simp [schema]

def ofMembers (members : Json.Members) : Logged Response := do
  let correlationId ← field .correlationId
  let hostName ← field .hostName
  let containerName ← field .containerName
  let blobName ← field .blobName
  let sasToken ← field .sasToken
  Logged.note (.responseAccepted correlationId)
  return { correlationId, hostName, containerName, blobName, sasToken }
where
  field (key : Key) : Logged FieldText :=
    Intake.text key.name (Payload.field? members key .text)

def event (m : Response) : Event := .responseAccepted m.correlationId

theorem ofMembers_conforms (members : Json.Members) :
    (ofMembers members).Conforms (Rejection.OfMembers schema) fun m => [m.event] := by
  have field {key : Key} (declared : (key, .text) ∈ schema) :
      (ofMembers.field members key).Checks (Rejection.OfMembers schema) :=
    (Intake.text_checks declared _).mono fun _ _ => .field
  apply Logged.Conforms.bind (field (by decide)); intro correlationId
  apply Logged.Conforms.bind (field (by decide)); intro hostName
  apply Logged.Conforms.bind (field (by decide)); intro containerName
  apply Logged.Conforms.bind (field (by decide)); intro blobName
  apply Logged.Conforms.bind (field (by decide)); intro sasToken
  exact .note rfl

def form : Form Response := ⟨schema, ofMembers⟩

def ofJson (text : String) : Logged Response := form.read text

end Response

end UploadMessages
