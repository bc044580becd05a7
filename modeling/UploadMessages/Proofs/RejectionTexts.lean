import UploadMessages.Proofs.Journal
import UploadMessages.Proofs.Text.Order
import UploadMessages.Proofs.Text.Quotations
import UploadMessages.Proofs.Timestamp.Readings

/-! # The texts of rejections

The text of a rejection is free of control characters, whatever was rejected: texts that come from
outside are quoted in it, and all else is fixed or a number. The text that rejects a timestamp tells
both the timestamp and the reason, since a quoted text can be read off whatever follows it.
-/

namespace UploadMessages

open Text (IsControl NoControls noControls_append noControls_quoted)

theorem Numeral.noControls_toChars (ds : Numeral 10) : NoControls ds.toChars :=
  .toChars (by decide) ds

theorem Numeral.noControls_ofInt (n : Int) : NoControls (ofInt n) := by
  have minus : ¬IsControl '-' := by decide
  unfold ofInt
  split <;> simp [noControls_toChars, minus]

theorem noControls_toString (n : Nat) : NoControls (toString n).toList := by
  rw [Nat.toString_eq_ofList_toDigits, String.toList_ofList, ← Numeral.toChars_ofNat]
  exact Numeral.noControls_toChars _

namespace Decimal

theorem noControls_pointed {whole fraction : List Char} (h : NoControls whole)
    (h' : NoControls fraction) : NoControls (pointed whole fraction) := by
  have zero : ¬IsControl '0' := by decide
  have point : ¬IsControl '.' := by decide
  unfold pointed
  split <;> split <;> simp [h, h', zero, point]

theorem Layout.noControls_write (layout : Layout) (d : Decimal) : NoControls (layout.write d) := by
  have zeros (count : Nat) : NoControls (List.replicate count '0') := by
    intro c mem
    rw [List.eq_of_mem_replicate mem]
    decide
  have digits (ds : Numeral 10) (count : Nat) :
      NoControls (ds.toChars.take count) ∧ NoControls (ds.toChars.drop count) :=
    ⟨ds.noControls_toChars.of_subset (List.take_subset ..),
      ds.noControls_toChars.of_subset (List.drop_subset ..)⟩
  have point : ¬IsControl '.' := by decide
  have exponent : ¬IsControl 'e' := by decide
  have sign (negative : Prop) [Decidable negative] :
      ¬IsControl (if negative then '-' else '+') := by
    split <;> decide
  unfold write
  dsimp only
  split
  · split
    · refine noControls_pointed Text.noControls_nil ?_
      exact noControls_append.mpr ⟨zeros _, Numeral.noControls_toChars _⟩
    · refine noControls_pointed ?_ (digits _ _).2
      exact noControls_append.mpr ⟨(digits _ _).1, zeros _⟩
  · split <;> simp [digits, point, exponent, sign, Numeral.noControls_toChars, -List.drop_one]

theorem noControls_floatingPoint (negative : Bool) (units : Nat) :
    NoControls (floatingPoint negative units).toList := by
  have minus : ¬IsControl '-' := by decide
  have zero : NoControls (pointed [] []) := by decide
  rw [floatingPoint, String.toList_ofList]
  split <;> split <;> simp [minus, zero, Layout.noControls_write]

end Decimal

theorem Json.Fault.noControls_message (fault : Fault) : NoControls fault.message.toList := by
  cases fault <;> exact .literal (by decide)

theorem Field.Fault.noControls_message (fault : Fault) : NoControls fault.message.toList := by
  cases fault <;> exact .literal (by decide)

theorem Timestamp.Fault.noControls_message (fault : Fault) : NoControls fault.message.toList := by
  cases fault <;> exact .literal (by decide)

theorem Key.noControls_name (k : Key) : NoControls k.name.toList := by
  cases k <;> exact .literal (by decide)

theorem Kind.noControls_message (kind : Kind) : NoControls kind.message.toList := by
  cases kind with
  | text => exact .literal (by decide)
  | flag => exact .literal (by decide)
  | integer bits => exact .append (.literal (by decide)) (.literal (Numeral.noControls_toChars _))

namespace Payload

theorem Found.noControls_message (found : Found) : NoControls found.message.toList := by
  cases found with
  | null => exact .literal (by decide)
  | boolean b =>
    refine .append (.append (.literal (by decide)) ?_) (.literal (by decide))
    cases b <;> exact .literal (by decide)
  | integer n =>
    refine .append (.append (.literal (by decide)) ?_) (.literal (by decide))
    exact .literal (Numeral.noControls_ofInt n)
  | floatingPoint l =>
    refine .append (.append (.literal (by decide)) ?_) (.literal (by decide))
    exact Decimal.noControls_floatingPoint _ _
  | text s => exact .append (.literal (by decide)) (noControls_quoted s)
  | list => exact .literal (by decide)
  | object => exact .literal (by decide)

theorem Fault.noControls_message (fault : Fault) : NoControls fault.message.toList := by
  cases fault with
  | blank => exact .literal (by decide)
  | notJson fault => exact fault.noControls_message
  | notAnObject => exact .literal (by decide)
  | mistyped found wanted =>
    refine .append (.append (.append ?_ found.noControls_message) ?_) wanted.noControls_message
    · split <;> exact .literal (by decide)
    · exact .literal (by decide)

end Payload

inductive Timestamp.Rejects (text : String) (rejection : Rejection) : Prop
  | utc (h : (Intake.time utc text).result = .error rejection)
  | zoned (h : (Intake.time zoned text).result = .error rejection)

namespace Rejection

inductive Arises (rejection : Rejection) : Prop
  | read {kind : Inbound} {text : String} (h : (kind.ofJson text).result = .error rejection)
  | request {blobName : String} (h : (Request.ofBlobName blobName).result = .error rejection)
  | report {id : Option String} {draft : Outcome.Draft}
    (h : (StatusReport.ofDraft id draft).result = .error rejection)
  | update {report : StatusReport} {draft : Outcome.Draft}
    (h : (report.update draft).result = .error rejection)
  | timestamp {text : String} (h : Timestamp.Rejects text rejection)

/-- How a rejection is put into words. To what is wrong with a JSON text may be added where. -/
inductive Wording : Rejection → String → Prop
  | plain (rejection : Rejection) : Wording rejection rejection.message
  | placed (fault : Json.Fault) (line column : Nat) :
    Wording (.malformedPayload (.notJson fault))
      ((malformedPayload (.notJson fault)).message ++
        " at line " ++ toString line ++ " column " ++ toString column)

/-- Of the fields only those of the messages are named. -/
theorem HasEntry.noControls_message {rejection : Rejection} {entry : Entry}
    (h : rejection.HasEntry entry) : NoControls rejection.message.toList := by
  have field (key : Key) (fault : Field.Fault) :
      NoControls (invalidField key.name fault).message.toList := by
    refine .append (.append (.append ?_ key.noControls_name) ?_) fault.noControls_message
    · exact .literal (by decide)
    · exact .literal (by decide)
  cases h with
  | payload => exact .append (.literal (by decide)) (Payload.Fault.noControls_message _)
  | textField => exact field _ _
  | otherField => exact field _ _
  | timestamp =>
    refine .append (.append (.append ?_ (noControls_quoted _)) ?_)
      (Timestamp.Fault.noControls_message _)
    · exact .literal (by decide)
    · exact .literal (by decide)

end Rejection

theorem Logged.Accounts.exists_hasEntry {α : Type} {x : Logged α} {accepted : α → List Entry}
    {rejection : Rejection} (h : x.Accounts accepted) (rejected : x.result = .error rejection) :
    ∃ entry, rejection.HasEntry entry := by
  unfold Accounts at h
  rw [rejected] at h
  obtain ⟨entry, has, -⟩ := h
  exact ⟨entry, has⟩

theorem Rejection.Arises.exists_hasEntry {rejection : Rejection} (h : rejection.Arises) :
    ∃ entry, rejection.HasEntry entry := by
  cases h with
  | @read kind text h => exact (kind.accounts_ofJson text).exists_hasEntry h
  | request h => exact (Request.silent_ofBlobName _).exists_hasEntry h
  | report h => exact (StatusReport.silent_ofDraft _ _).exists_hasEntry h
  | update h => exact (StatusReport.accounts_update _ _).exists_hasEntry h
  | timestamp h =>
    cases h with
    | utc h => exact (Intake.silent_time _ _).exists_hasEntry h
    | zoned h => exact (Intake.silent_time _ _).exists_hasEntry h

theorem Rejection.Arises.noControls {rejection : Rejection} (h : rejection.Arises) {text : String}
    (worded : rejection.Wording text) : NoControls text.toList := by
  obtain ⟨entry, has⟩ := h.exists_hasEntry
  have message := has.noControls_message
  cases worded with
  | plain => exact message
  | placed fault line column =>
    refine .append (.append (.append (.append message ?_) (noControls_toString line)) ?_)
      (noControls_toString column)
    · exact .literal (by decide)
    · exact .literal (by decide)

namespace Timestamp

theorem message_invalidTimestamp (text : String) (fault : Fault) :
    (Rejection.invalidTimestamp text fault).message =
      "invalid timestamp " ++ Text.quoted text ++ ": " ++ fault.message := rfl

theorem Rejects.exists_fault {text : String} {rejection : Rejection} (h : Rejects text rejection) :
    ∃ fault, rejection = .invalidTimestamp text fault := by
  cases h with
  | utc h =>
    obtain ⟨fault, eq, -⟩ := Intake.time_eq_error_iff.mp h
    exact ⟨fault, eq⟩
  | zoned h =>
    obtain ⟨fault, eq, -⟩ := Intake.time_eq_error_iff.mp h
    exact ⟨fault, eq⟩

/-- The text that rejects a timestamp tells the timestamp and the reason. -/
theorem message_eq_iff {v w : String} {fault fault' : Fault} :
    (Rejection.invalidTimestamp v fault).message = (Rejection.invalidTimestamp w fault').message ↔
      v = w ∧ fault.message = fault'.message := by
  constructor
  · intro same
    have same := congrArg String.toList same
    simp only [message_invalidTimestamp, String.toList_append, List.append_assoc] at same
    obtain ⟨value, later⟩ := Text.quoted_append_inj (List.append_cancel_left same)
    exact ⟨value, String.toList_inj.mp (List.append_cancel_left later)⟩
  · rintro ⟨rfl, reason⟩
    rw [message_invalidTimestamp, message_invalidTimestamp, reason]

end Timestamp

/-- No wording of a rejection holds a control character. The texts that reject two timestamps are
the same just if the timestamps are, and the reasons. -/
theorem rejections_are_one_line_and_unambiguous :
    (∀ rejection : Rejection, rejection.Arises → ∀ text, rejection.Wording text →
      ∀ c ∈ text.toList, ¬IsControl c) ∧
    ∀ v w rejection rejection', Timestamp.Rejects v rejection → Timestamp.Rejects w rejection' →
      ∃ fault fault', rejection = .invalidTimestamp v fault ∧
        rejection' = .invalidTimestamp w fault' ∧
        (rejection.message = rejection'.message ↔ v = w ∧ fault.message = fault'.message) := by
  constructor
  · intro rejection arises text worded
    exact arises.noControls worded
  · intro v w rejection rejection' h h'
    obtain ⟨fault, rfl⟩ := h.exists_fault
    obtain ⟨fault', rfl⟩ := h'.exists_fault
    exact ⟨fault, fault', rfl, rfl, Timestamp.message_eq_iff⟩

/-- A timestamp that holds the quote and the reason that would follow it does not pass for the
shorter one. -/
theorem rejections_are_one_line_and_unambiguous_imitatedReason :
    let v := "1\x00\n\x7f\\"
    let w := "1\x00\n\x7f\\\": too short"
    (Rejection.invalidTimestamp w .tooShort).message =
        "invalid timestamp \"1\\0\\n\\u\x7b7f\x7d\\\\\\\": too short\": too short" ∧
      (∀ c ∈ (Rejection.invalidTimestamp w .tooShort).message.toList, ¬IsControl c) ∧
      (Rejection.invalidTimestamp v .tooShort).message ≠
        (Rejection.invalidTimestamp w .tooShort).message := by
  intro v w
  have rejects : Timestamp.Rejects v (.invalidTimestamp v .tooShort) := .utc (by decide)
  have rejects' : Timestamp.Rejects w (.invalidTimestamp w .tooShort) := .zoned (by decide)
  obtain ⟨oneLine, unambiguous⟩ := rejections_are_one_line_and_unambiguous
  refine ⟨by decide, oneLine _ (.timestamp rejects') _ (.plain _), fun same => ?_⟩
  obtain ⟨fault, fault', -, -, told⟩ := unambiguous v w _ _ rejects rejects'
  exact absurd (told.mp same).1 (by decide)

end UploadMessages
