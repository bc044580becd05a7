import UploadMessages.Proofs.Inbound

/-! # The fields of a message and the values in its text

An accepted message holds, for each key that its kind declares, the last value of
that key. The value is found again from the message, as the grammar has only one
literal for an integer.
-/

namespace UploadMessages

open Json (IsTextOf Members Spelling Phrase)

/-- A scalar is what the value of a key was read as. -/
def Scalar.IsReadFrom : Scalar → Option Json.Value → Prop
  | .text s, v => v = some (.text s)
  | .flag b, v => v = some (.boolean b)
  | .integer n, v => ∃ l, v = some (.number l) ∧ l.toInt? = some n

namespace Payload

variable {ms : Members} {key : Key}

theorem isReadFrom_text {s : String} (h : field? ms key .text = some s) :
    (Scalar.text s).IsReadFrom (ms.last? key.name) := by
  obtain ⟨v, last, accepted⟩ := Option.bind_eq_some_iff.mp h
  cases v <;> cases accepted
  exact last

theorem isReadFrom_flag {b : Bool} (h : field? ms key .flag = some b) :
    (Scalar.flag b).IsReadFrom (ms.last? key.name) := by
  obtain ⟨v, last, accepted⟩ := Option.bind_eq_some_iff.mp h
  cases v <;> cases accepted
  exact last

theorem isReadFrom_integer {bits : Nat} {n : Signed bits}
    (h : field? ms key (.integer bits) = some n) :
    (Scalar.integer n.value).IsReadFrom (ms.last? key.name) := by
  obtain ⟨v, last, accepted⟩ := Option.bind_eq_some_iff.mp h
  obtain ⟨l, rfl, denotes⟩ := Kind.accept?_integer accepted
  exact ⟨l, last, denotes⟩

end Payload

namespace Inbound

/-- What a message holds for a key, if its kind declares the key. -/
def scalar : (kind : Inbound) → kind.Message → Key → Option Scalar
  | .notification, m, .deviceId => some (.text m.deviceId.text)
  | .notification, m, .blobUri => some (.text m.blobUri.text)
  | .notification, m, .blobName => some (.text m.blobName.text)
  | .notification, m, .lastUpdatedTime => some (.text m.lastUpdated.written.text)
  | .notification, m, .blobSizeInBytes => some (.integer m.blobSize.value)
  | .notification, m, .enqueuedTimeUtc => some (.text m.enqueued.written.text)
  | .response, m, .correlationId => some (.text m.correlationId.text)
  | .response, m, .hostName => some (.text m.hostName.text)
  | .response, m, .containerName => some (.text m.containerName.text)
  | .response, m, .blobName => some (.text m.blobName.text)
  | .response, m, .sasToken => some (.text m.sasToken.text)
  | .statusReport, m, .correlationId => some (.text m.correlationId.text)
  | .statusReport, m, .isSuccess => some (.flag m.outcome.isSuccess)
  | .statusReport, m, .statusCode => some (.integer m.outcome.statusCode.value)
  | .statusReport, m, .statusDescription => some (.text m.outcome.description.text)
  | _, _, _ => none

def Shows (kind : Inbound) (m : kind.Message) (ms : Members) : Prop :=
  ∀ entry ∈ kind.schema, ∃ s, kind.scalar m entry.1 = some s ∧ s.IsReadFrom (ms.last? entry.1.name)

section

open Payload Intake Logged

variable {ms : Members}

theorem shows_notification {m : Notification} (h : (Notification.ofMembers ms).result = .ok m) :
    Shows .notification m ms := by
  obtain ⟨deviceId, hd, h⟩ := exists_of_bind_ok h
  obtain ⟨blobUri, hu, h⟩ := exists_of_bind_ok h
  obtain ⟨blobName, hb, h⟩ := exists_of_bind_ok h
  obtain ⟨enqueuedTimeUtc, he, h⟩ := exists_of_bind_ok h
  obtain ⟨lastUpdatedTime, hl, h⟩ := exists_of_bind_ok h
  obtain ⟨blobSize, hs, h⟩ := exists_of_bind_ok h
  obtain ⟨enqueued, hq, h⟩ := exists_of_bind_ok h
  obtain ⟨lastUpdated, ht, h⟩ := exists_of_bind_ok h
  cases h
  have hq := of_stamp_ok hq
  have ht := of_stamp_ok ht
  refine Notification.forall_mem_schema.mpr ⟨?_, ?_, ?_, ?_, ?_, ?_⟩
  · exact ⟨_, rfl, isReadFrom_text (of_text_ok hb)⟩
  · exact ⟨_, rfl, isReadFrom_integer (of_present_ok hs)⟩
  · exact ⟨_, rfl, isReadFrom_text (of_text_ok hu)⟩
  · exact ⟨_, rfl, isReadFrom_text (of_text_ok hd)⟩
  · exact ⟨_, rfl, isReadFrom_text (by rw [hq]; exact of_text_ok he)⟩
  · exact ⟨_, rfl, isReadFrom_text (by rw [ht]; exact of_text_ok hl)⟩

theorem shows_response {m : Response} (h : (Response.ofMembers ms).result = .ok m) :
    Shows .response m ms := by
  obtain ⟨correlationId, hc, h⟩ := exists_of_bind_ok h
  obtain ⟨hostName, hh, h⟩ := exists_of_bind_ok h
  obtain ⟨containerName, hn, h⟩ := exists_of_bind_ok h
  obtain ⟨blobName, hb, h⟩ := exists_of_bind_ok h
  obtain ⟨sasToken, hs, h⟩ := exists_of_bind_ok h
  cases h
  refine Response.forall_mem_schema.mpr ⟨?_, ?_, ?_, ?_, ?_⟩
  · exact ⟨_, rfl, isReadFrom_text (of_text_ok hb)⟩
  · exact ⟨_, rfl, isReadFrom_text (of_text_ok hn)⟩
  · exact ⟨_, rfl, isReadFrom_text (of_text_ok hc)⟩
  · exact ⟨_, rfl, isReadFrom_text (of_text_ok hh)⟩
  · exact ⟨_, rfl, isReadFrom_text (of_text_ok hs)⟩

theorem shows_statusReport {m : StatusReport} (h : (StatusReport.ofMembers ms).result = .ok m) :
    Shows .statusReport m ms := by
  obtain ⟨correlationId, hc, h⟩ := exists_of_bind_ok h
  obtain ⟨outcome, ho, h⟩ := exists_of_bind_ok h
  cases h
  obtain ⟨isSuccess, hi, ho⟩ := exists_of_bind_ok ho
  obtain ⟨statusCode, hs, ho⟩ := exists_of_bind_ok ho
  obtain ⟨description, hd, ho⟩ := exists_of_bind_ok ho
  cases ho
  refine StatusReport.forall_mem_schema.mpr ⟨?_, ?_, ?_, ?_⟩
  · exact ⟨_, rfl, isReadFrom_text (of_text_ok hc)⟩
  · exact ⟨_, rfl, isReadFrom_flag (of_present_ok hi)⟩
  · exact ⟨_, rfl, isReadFrom_integer (of_present_ok hs)⟩
  · exact ⟨_, rfl, isReadFrom_text (of_text_ok hd)⟩

end

/-- A message that is built shows what it was built from. -/
theorem shows_of_ofMembers {kind : Inbound} {ms : Members} {m : kind.Message}
    (h : (kind.form.ofMembers ms).result = .ok m) : kind.Shows m ms := by
  cases kind with
  | notification => exact shows_notification h
  | response => exact shows_response h
  | statusReport => exact shows_statusReport h

end Inbound

theorem mem_of_last? {ms : Members} {key : String} {v : Json.Value} (h : ms.last? key = some v) :
    (key, v) ∈ ms := by
  obtain ⟨before, after, split, -⟩ := List.lookup_eq_some_iff.mp h
  rw [← List.mem_reverse, split]
  simp

/-- The literals of a text have no leading zeros. -/
theorem isWhole_of_last? {cs : List Char} {ms : Members} {key : String} {l : Json.Literal}
    (writes : IsTextOf (.object ms) cs) (last : ms.last? key = some (.number l)) :
    Json.IsWhole l.whole := by
  obtain ⟨before, body, after, -, spelled, -, -⟩ := writes
  have mem := mem_of_last? last
  cases spelled with
  | emptyObject => cases mem
  | object members =>
    obtain ⟨ds, value⟩ := Json.exists_spelling_of_mem members mem
    cases value with
    | number literal _ =>
      obtain ⟨whole, -, -⟩ := literal
      exact whole

/-- What a scalar was read from is the same in all texts. -/
theorem Scalar.IsReadFrom.unique {cs cs' : List Char} {ms ms' : Members} {key : String} {s : Scalar}
    (writes : IsTextOf (.object ms) cs) (writes' : IsTextOf (.object ms') cs')
    (h : s.IsReadFrom (ms.last? key)) (h' : s.IsReadFrom (ms'.last? key)) :
    ms.last? key = ms'.last? key := by
  cases s with
  | text s => exact Eq.trans h h'.symm
  | flag b => exact Eq.trans h h'.symm
  | integer n =>
    obtain ⟨l, last, denotes⟩ := h
    obtain ⟨l', last', denotes'⟩ := h'
    rw [last, last', Json.Literal.eq_of_toInt?_eq (isWhole_of_last? writes last)
      (isWhole_of_last? writes' last') denotes denotes']

end UploadMessages
