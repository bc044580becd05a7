/-! # Fields of messages

A field has a key and holds a text of single bytes, a flag or an integer of a fixed
width. A text is checked before a message holds it.
-/

namespace UploadMessages

inductive Key
  | deviceId
  | blobUri
  | blobName
  | lastUpdatedTime
  | blobSizeInBytes
  | enqueuedTimeUtc
  | correlationId
  | hostName
  | containerName
  | sasToken
  | isSuccess
  | statusCode
  | statusDescription
deriving DecidableEq, Repr

namespace Key

def name : Key → String
  | .deviceId => "deviceId"
  | .blobUri => "blobUri"
  | .blobName => "blobName"
  | .lastUpdatedTime => "lastUpdatedTime"
  | .blobSizeInBytes => "blobSizeInBytes"
  | .enqueuedTimeUtc => "enqueuedTimeUtc"
  | .correlationId => "correlationId"
  | .hostName => "hostName"
  | .containerName => "containerName"
  | .sasToken => "sasToken"
  | .isSuccess => "isSuccess"
  | .statusCode => "statusCode"
  | .statusDescription => "statusDescription"

def all : List Key :=
  [.deviceId, .blobUri, .blobName, .lastUpdatedTime, .blobSizeInBytes, .enqueuedTimeUtc,
   .correlationId, .hostName, .containerName, .sasToken, .isSuccess, .statusCode,
   .statusDescription]

theorem name_injective {k k' : Key} (h : k.name = k'.name) : k = k' := by
  revert h; cases k <;> cases k' <;> decide

end Key

/-- The least integer that is too large for a word of so many bits. -/
def Signed.bound (bits : Nat) : Nat := Nat.pow 2 (bits - 1)

/-- An integer that a two's complement word of so many bits holds. -/
structure Signed (bits : Nat) where
  value : Int
  least_le : -(Signed.bound bits : Int) ≤ value
  lt_bound : value < Signed.bound bits
deriving DecidableEq, Repr

namespace Signed

variable {bits : Nat}

def ofInt? (bits : Nat) (n : Int) : Option (Signed bits) :=
  if h : -(bound bits : Int) ≤ n ∧ n < bound bits then some ⟨n, h.1, h.2⟩
  else none

theorem ofInt?_value (n : Signed bits) : ofInt? bits n.value = some n := by
  simp [ofInt?, n.least_le, n.lt_bound]

theorem value_of_ofInt? {n : Int} {s : Signed bits} (h : ofInt? bits n = some s) :
    s.value = n := by
  unfold ofInt? at h
  split at h
  · cases h; rfl
  · cases h

end Signed

/-- What a field of a written message or of a journal entry holds. -/
inductive Scalar
  | text (s : String)
  | flag (b : Bool)
  | integer (n : Int)
deriving DecidableEq, Repr

/-- A text of one or more characters of one byte each. -/
structure FieldText where
  text : String
  nonempty : text ≠ ""
  singleByte : text.utf8ByteSize = text.length
deriving DecidableEq, Repr

namespace Field

inductive Fault
  | missing
  | empty
  | multiByte
deriving DecidableEq, Repr

def Fault.message : Fault → String
  | .missing => "missing or null"
  | .empty => "empty"
  | .multiByte => "contains multi-byte characters"

def text (value : Option String) : Except Fault FieldText :=
  match value with
  | none => .error .missing
  | some text =>
    if h : text = "" then .error .empty
    else if h' : text.utf8ByteSize = text.length then .ok ⟨text, h, h'⟩
    else .error .multiByte

def present {α : Type} (value : Option α) : Except Fault α :=
  match value with
  | none => .error .missing
  | some a => .ok a

theorem text_of_fieldText (t : FieldText) : text (some t.text) = .ok t := by
  simp [text, t.nonempty, t.singleByte]

end Field

end UploadMessages
