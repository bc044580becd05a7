import UploadMessages.Proofs.Inbound

/-! # The first fault of a JSON text is final

A JSON text is read strictly from left to right. A fault that is found at a character stays,
whatever follows the character: neither the rest of the text nor what its members hold can
change it. Only the end of a text may come too early for some texts and not for longer ones,
and a number that is too large may yet go on.
-/

namespace UploadMessages

namespace Json

/-- Whether a fault may be mended by what is added to the text: the text ends within a value, or
with a number that is too large and might be scaled down by an exponent. -/
def Fault.Mendable (fault : Fault) : Prop :=
  "EOF while parsing".toList <+: fault.message.toList ∨ fault.message = "number out of range"

instance (fault : Fault) : Decidable fault.Mendable := inferInstanceAs (Decidable (_ ∨ _))

namespace State

variable {s s' : State} {fault : Fault}

theorem outcome_mendable (h : s.outcome = .error fault) : fault.Mendable := by
  unfold outcome at h
  split at h <;> cases h <;> decide

/-- No fault is found at the end of a text but those that more of it may mend. -/
theorem finish_mendable (h : s.finish = .error fault) : fault.Mendable := by
  unfold finish at h
  split at h
  · split at h
    · unfold takeNumber at h
      split at h
      · cases h
        decide
      · exact outcome_mendable h
    · cases h
      decide
  · exact outcome_mendable h

/-- A run that comes to a fault comes to it at one of its characters. -/
theorem exists_step_of_run {cs : List Char} (h : s.run cs = .error fault) :
    ∃ before c after s', cs = before ++ c :: after ∧ s.run before = .ok s' ∧
      s'.step c = .error fault := by
  induction cs generalizing s with
  | nil => cases h
  | cons c cs ih =>
    cases first : s.step c with
    | error fault' =>
      cases (run_cons_of_error first cs).symm.trans h
      exact ⟨[], c, cs, s, rfl, rfl, first⟩
    | ok t =>
      rw [run_cons_of_step first] at h
      obtain ⟨before, c', after, s', rfl, reached, fails⟩ := ih h
      exact ⟨c :: before, c', after, s', rfl, by rw [run_cons_of_step first, reached], fails⟩

end State

/-- A fault that cannot be mended is found at a character. Each text that goes on from there has
the fault, and what comes before the character has no such fault. -/
theorem exists_first_fault {text : List Char} {fault : Fault} (h : read text = .error fault)
    (final : ¬fault.Mendable) : ∃ before c after, text = before ++ c :: after ∧
      (∀ more, read (before ++ c :: more) = .error fault) ∧
      ∀ fault', read before = .error fault' → fault'.Mendable := by
  cases ran : State.initial.run text with
  | ok s =>
    rw [State.read_of_run ran] at h
    exact absurd (State.finish_mendable h) final
  | error fault' =>
    cases (State.read_of_run_error ran).symm.trans h
    obtain ⟨before, c, after, s, rfl, reached, fails⟩ := State.exists_step_of_run ran
    refine ⟨before, c, after, rfl, fun more => ?_, fun fault' early => ?_⟩
    · have upTo : State.initial.run (before ++ [c]) = .error fault := by
        rw [State.run_append_of_run reached, State.run_cons_of_error fails]
      simpa using read_append_of_run upTo more
    · rw [State.read_of_run reached] at early
      exact State.finish_mendable early

end Json

namespace Payload

/-- A text is rejected for a fault as a JSON text just if it is not blank and has the fault. -/
theorem members_eq_notJson_iff {schema : Schema} {text : String} {fault : Json.Fault} :
    members schema text = .error (.notJson fault) ↔
      text.toList.all Text.isBlank = false ∧ Json.read text.toList = .error fault := by
  constructor
  · intro h
    unfold members at h
    split at h
    · cases h
    · rename_i notBlank
      refine ⟨Bool.eq_false_iff.mpr notBlank, ?_⟩
      split at h
      · rename_i read
        cases h
        exact read
      · split at h
        · rename_i found
          obtain ⟨entry, -, wrong⟩ := List.exists_of_findSome?_eq_some found
          obtain ⟨v, -, -, -, rfl⟩ := mistyped?_eq_some_iff.mp wrong
          cases h
        · cases h
      · cases h
  · rintro ⟨notBlank, read⟩
    simp only [members, notBlank, read, Bool.false_eq_true, if_false]

end Payload

/-- A text that is rejected for such a fault is rejected so with whatever is added to it. -/
theorem first_fault_is_final {kind : Inbound} {text : String} {fault : Json.Fault}
    (rejected : (kind.ofJson text).result = .error (.malformedPayload (.notJson fault)))
    (final : ¬fault.Mendable) :
    (∀ more, kind.ofJson (text ++ more) = kind.ofJson text) ∧
    ∃ before c after, text.toList = before ++ c :: after ∧
      (∀ more, Json.read (before ++ c :: more) = .error fault) ∧
      ∀ fault', Json.read before = .error fault' → fault'.Mendable := by
  have members := Inbound.rejects_iff.mp rejected
  obtain ⟨notBlank, read⟩ := Payload.members_eq_notJson_iff.mp members
  have first := Json.exists_first_fault read final
  refine ⟨fun more => ?_, first⟩
  obtain ⟨before, c, after, written, always, -⟩ := first
  have longer : Payload.members kind.schema (text ++ more) = .error (.notJson fault) := by
    refine Payload.members_eq_notJson_iff.mpr ⟨?_, ?_⟩
    · rw [String.toList_append, List.all_append, notBlank, Bool.false_and]
    · rw [String.toList_append, written, List.append_assoc, List.cons_append, always]
  rw [Inbound.ofJson_of_fault longer, Inbound.ofJson_of_fault members]

/-- A notification with a number for a device, and with an escape whose four places end within a
character. -/
def brokenText : String := "\x7b\"deviceId\":1,\"blobUri\":\"\\u12fé"

/-- Neither the device nor what may be added counts, for the escape is broken. -/
theorem first_fault_is_final_brokenText :
    (Inbound.notification.ofJson brokenText).result =
      .error (.malformedPayload (.notJson .notAnEscape)) ∧
    Inbound.notification.ofJson (brokenText ++ "\",\"deviceId\":\"d\"\x7d") =
      Inbound.notification.ofJson brokenText := by
  have rejected : (Inbound.notification.ofJson brokenText).result =
      .error (.malformedPayload (.notJson .notAnEscape)) := by decide +kernel
  exact ⟨rejected, (first_fault_is_final rejected (by decide)).1 _⟩

end UploadMessages
