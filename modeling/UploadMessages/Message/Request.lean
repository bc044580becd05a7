import UploadMessages.Journal
import UploadMessages.Json.Value

/-! # Upload requests

A request asks where a blob may be uploaded.
-/

namespace UploadMessages

structure Request where
  blobName : FieldText
deriving DecidableEq, Repr

namespace Request

def ofBlobName (blobName : String) : Logged Request := do
  return ⟨← Intake.text Key.blobName.name (some blobName)⟩

theorem ofBlobName_checks {schema : Schema} (declared : (.blobName, .text) ∈ schema)
    (blobName : String) : (ofBlobName blobName).Checks (Rejection.OfField schema) :=
  .bind (Intake.text_checks declared (some blobName)) fun _ => .pure _

theorem of_ofBlobName_ok {name : String} {r : Request} (h : (ofBlobName name).result = .ok r) :
    r.blobName.text = name := by
  obtain ⟨blobName, accepted, h⟩ := Logged.exists_of_bind_ok h
  cases h
  exact (Option.some.inj (Intake.of_text_ok accepted)).symm

def record (r : Request) : Json.Record := [(Key.blobName.name, .text r.blobName.text)]

def toJson (r : Request) : String := r.record.toString

end Request

end UploadMessages
