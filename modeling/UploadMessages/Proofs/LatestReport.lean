import UploadMessages.Proofs.Steps
import UploadMessages.Proofs.Text.Order

/-! # The report of a session is the latest

At every time of a session the current report has the correlation id that the latest
report was built with, and as a whole the outcome that was given last. Commands that
are rejected and commands that only ask change nothing, and whatever is shown or
written of a report is the current one.
-/

namespace UploadMessages

open Json (IsTextOf)

def IsLatest {α : Type} (P : α → Prop) (l : List α) (a : α) : Prop :=
  ∃ before after, l = before ++ a :: after ∧ P a ∧ ∀ b ∈ after, ¬P b

namespace IsLatest

variable {α : Type} {P : α → Prop} {l : List α} {a b : α}

theorem append_self (l : List α) (h : P a) : IsLatest P (l ++ [a]) a :=
  ⟨l, [], rfl, h, List.forall_mem_nil _⟩

theorem append_other (h : IsLatest P l a) (other : ¬P b) : IsLatest P (l ++ [b]) a := by
  obtain ⟨before, after, rfl, holds, noneAfter⟩ := h
  refine ⟨before, after ++ [b], by simp, holds, ?_⟩
  exact List.forall_mem_append.mpr ⟨noneAfter, List.forall_mem_singleton.mpr other⟩

end IsLatest

namespace Session

def Command.Asks (command : Command) : Prop := command = .write ∨ command = .inspect

namespace Step

/-- The command was obeyed; one that needs a report and finds none is not. -/
def Succeeded (s : Step) : Prop := ∃ reply, s.turn.answer = .ok reply ∧ reply ≠ .noReport

def Founding (s : Step) : Prop := s.Succeeded ∧ s.command.Founds

def Deciding (s : Step) : Prop :=
  s.Succeeded ∧ (s.command.Founds ∨ ∃ draft, s.command = .update draft)

/-- The step failed, or its command only asks for the report. -/
def Quiet (s : Step) : Prop := ¬s.Succeeded ∨ s.command.Asks

theorem Quiet.not_deciding {s : Step} (quiet : s.Quiet) : ¬s.Deciding := by
  rintro ⟨succeeded, decides⟩
  obtain ⟨command, turn⟩ := s
  rcases quiet with failed | rfl | rfl
  · exact failed succeeded
  · rcases decides with founds | ⟨draft, update⟩
    · exact founds
    · cases update
  · rcases decides with founds | ⟨draft, update⟩
    · exact founds
    · cases update

section

variable {command : Command} {current : Option StatusReport} {events : List Event}

@[simp]
theorem succeeded_ok_iff {reply : Reply} :
    Succeeded ⟨command, .ok reply, current, events⟩ ↔ reply ≠ .noReport := by
  simp [Succeeded]

@[simp]
theorem not_succeeded_error {rejection : Rejection} :
    ¬Succeeded ⟨command, .error rejection, current, events⟩ := by
  simp [Succeeded]

end

end Step

/-- Whether a report is what the steps so far have made it. -/
structure Reflects (soFar : List Step) (current : Option StatusReport) : Prop where
  isSome_iff : current.isSome ↔ ∃ s ∈ soFar, s.Founding
  correlationId : ∀ report, current = some report →
    ∃ s, IsLatest Step.Founding soFar s ∧ s.command.NamesId report.correlationId.text
  outcome : ∀ report, current = some report →
    ∃ s, IsLatest Step.Deciding soFar s ∧ s.command.GivesOutcome report.outcome

namespace Reflects

variable {soFar : List Step} {current : Option StatusReport}

theorem start : Reflects [] none where
  isSome_iff := by simp
  correlationId _ h := by cases h
  outcome _ h := by cases h

/-- A step that builds nothing and updates nothing changes nothing. -/
theorem keep (h : Reflects soFar current) {s : Step} (quiet : ¬s.Deciding) :
    Reflects (soFar ++ [s]) current := by
  have noFounding : ¬s.Founding := fun founding => quiet ⟨founding.1, .inl founding.2⟩
  refine ⟨?_, fun report was => ?_, fun report was => ?_⟩
  · simp [h.isSome_iff, noFounding]
  · obtain ⟨latest, isLatest, names⟩ := h.correlationId report was
    exact ⟨latest, isLatest.append_other noFounding, names⟩
  · obtain ⟨latest, isLatest, gives⟩ := h.outcome report was
    exact ⟨latest, isLatest.append_other quiet, gives⟩

theorem found {s : Step} {report : StatusReport} (founding : s.Founding)
    (names : s.command.NamesId report.correlationId.text)
    (gives : s.command.GivesOutcome report.outcome) (soFar : List Step) :
    Reflects (soFar ++ [s]) (some report) := by
  have deciding : s.Deciding := ⟨founding.1, .inl founding.2⟩
  refine ⟨?_, fun report' was => ?_, fun report' was => ?_⟩
  · simp only [Option.isSome_some, true_iff]
    exact ⟨s, List.mem_append_right _ (List.mem_singleton_self s), founding⟩
  · cases was
    exact ⟨s, .append_self soFar founding, names⟩
  · cases was
    exact ⟨s, .append_self soFar deciding, gives⟩

/-- An update replaces the outcome; the id is still that of the report that was built last. -/
theorem update {report report' : StatusReport} (h : Reflects soFar (some report)) {s : Step}
    (deciding : s.Deciding) (notFounding : ¬s.Founding)
    (id : report'.correlationId = report.correlationId)
    (gives : s.command.GivesOutcome report'.outcome) : Reflects (soFar ++ [s]) (some report') := by
  refine ⟨?_, fun report'' was => ?_, fun report'' was => ?_⟩
  · obtain ⟨founding, mem, founded⟩ := h.isSome_iff.mp rfl
    simp only [Option.isSome_some, true_iff]
    exact ⟨founding, List.mem_append_left _ mem, founded⟩
  · cases was
    obtain ⟨latest, isLatest, names⟩ := h.correlationId report rfl
    exact ⟨latest, isLatest.append_other notFounding, id ▸ names⟩
  · cases was
    exact ⟨s, .append_self soFar deciding, gives⟩

theorem step (h : Reflects soFar current) {s : Step} (effect : Effect current s) :
    Reflects (soFar ++ [s]) s.turn.current := by
  cases effect with
  | rejected => exact h.keep fun deciding => Step.not_succeeded_error deciding.1
  | founded founds names gives =>
    exact found ⟨by simp, founds⟩ names gives soFar
  | @updated draft _ _ _ was id gives =>
    subst was
    exact h.update ⟨by simp, .inr ⟨draft, rfl⟩⟩ (fun founding => founding.2) id gives
  | written was =>
    subst was
    exact h.keep (Step.Quiet.not_deciding (.inr (.inl rfl)))
  | shown was =>
    subst was
    exact h.keep (Step.Quiet.not_deciding (.inr (.inr rfl)))
  | idle was =>
    subst was
    exact h.keep fun deciding => Step.succeeded_ok_iff.mp deciding.1 rfl

/-- What holds of each step holds of the session: the induction is on its last step. -/
theorem session (commands : List Command) : Reflects (steps commands) (final none commands) := by
  induction commands using List.reverseRecOn with
  | nil => exact start
  | append_singleton past command ih =>
    rw [steps_append_singleton, final_append_singleton]
    exact ih.step (effect_turn _ _)

end Reflects

/-- The text is an object with the four members of a report and no others. -/
def Tells (json : String) (report : StatusReport) : Prop :=
  ∃ code : Json.Literal, code.IsPlain ∧ code.integer = report.outcome.statusCode.value ∧
    IsTextOf (.object
      [(Key.correlationId.name, .text report.correlationId.text),
       (Key.isSuccess.name, .boolean report.outcome.isSuccess),
       (Key.statusCode.name, .number code),
       (Key.statusDescription.name, .text report.outcome.description.text)]) json.toList

theorem tells_toJson (report : StatusReport) : Tells report.toJson report :=
  ⟨.ofInt report.outcome.statusCode.value, ⟨rfl, rfl⟩, Json.Literal.integer_ofInt _,
    report.isTextOf_toJson⟩

namespace Effect

variable {current : Option StatusReport} {s : Step}

theorem unchanged (effect : Effect current s) (quiet : s.Quiet) : s.turn.current = current := by
  cases effect with
  | rejected => rfl
  | founded founds => exact absurd ⟨by simp, .inl founds⟩ quiet.not_deciding
  | @updated draft => exact absurd ⟨by simp, .inr ⟨draft, rfl⟩⟩ quiet.not_deciding
  | written was => exact was.symm
  | shown was => exact was.symm
  | idle was => exact was.symm

/-- Whoever asks for the report is answered, if there is one. -/
theorem asked (effect : Effect current s) (asks : s.command.Asks) :
    s.Succeeded ↔ current.isSome := by
  cases effect with
  | rejected notAsking =>
    rcases asks with rfl | rfl
    · exact absurd rfl notAsking.1
    · exact absurd rfl notAsking.2
  | founded founds =>
    rcases asks with rfl | rfl
    · cases founds
    · cases founds
  | updated =>
    rcases asks with update | update
    · cases update
    · cases update
  | written was => simp [was]
  | shown was => simp [was]
  | idle was => simp [was]

theorem tells (effect : Effect current s) {json : String}
    (answer : s.turn.answer = .ok (.written json)) :
    ∃ report, s.turn.current = some report ∧ Tells json report := by
  obtain ⟨report, isCurrent, rfl⟩ := effect.writes answer
  exact ⟨report, isCurrent, tells_toJson report⟩

theorem shows (effect : Effect current s) {report : StatusReport}
    (answer : s.turn.answer = .ok (.shown report)) : s.turn.current = some report := by
  cases effect with
  | rejected => cases answer
  | founded => cases answer
  | updated => cases answer
  | written => cases answer
  | shown =>
    cases answer
    rfl
  | idle => cases answer

end Effect

/-- Whether a command is accepted: the report that it makes is, or there is one that it asks for. -/
def Command.IsAccepted (current : Option StatusReport) : Command → Prop
  | .build id draft => ∃ report, (StatusReport.ofDraft id draft).result = .ok report
  | .read json => ∃ report, (StatusReport.ofJson json).result = .ok report
  | .update draft => ∃ report, current = some report ∧
    ∃ updated, (report.update draft).result = .ok updated
  | .write | .inspect => ∃ report, current = some report

theorem succeeded_ofReport_iff {current : Option StatusReport} {command : Command}
    {made : Logged StatusReport} {reply : StatusReport → Reply}
    (replies : ∀ report, reply report ≠ .noReport) :
    Step.Succeeded ⟨command, .ofReport current made reply⟩ ↔
      ∃ report, made.result = .ok report := by
  unfold Turn.ofReport
  cases made.result with
  | error rejection => simp
  | ok report => simp [replies report]

theorem succeeded_turn_iff (current : Option StatusReport) (command : Command) :
    Step.Succeeded ⟨command, turn current command⟩ ↔ command.IsAccepted current := by
  cases command with
  | build id draft =>
    rw [turn_build]
    exact succeeded_ofReport_iff (by simp)
  | read json =>
    rw [turn_read]
    exact succeeded_ofReport_iff (by simp)
  | update draft =>
    cases current with
    | none =>
      rw [turn_none (.update draft) not_false]
      simp [Command.IsAccepted]
    | some report =>
      rw [turn_update, succeeded_ofReport_iff (by simp)]
      simp [Command.IsAccepted]
  | write =>
    rw [(effect_turn current .write).asked (.inl rfl), Option.isSome_iff_exists]
    rfl
  | inspect =>
    rw [(effect_turn current .inspect).asked (.inr rfl), Option.isSome_iff_exists]
    rfl

/-- After each step the current report is what the latest commands made it, and nothing else is
seen of it. A step that fails or only asks leaves it as it was. -/
theorem current_report_is_latest (past : List Command) (command : Command) :
    let step := taken past command
    steps (past ++ [command]) = steps past ++ [step] ∧
      Reflects (steps past ++ [step]) step.turn.current ∧
      (∀ report, step.turn.current = some report →
        Text.Plain report.correlationId.text ∧ Text.Plain report.outcome.description.text) ∧
      (step.Quiet → step.turn.current = final none past) ∧
      (step.Succeeded ↔ command.IsAccepted (final none past)) ∧
      (command.Asks → (step.Succeeded ↔ (final none past).isSome)) ∧
      (∀ json, step.turn.answer = .ok (.written json) →
        ∃ report, step.turn.current = some report ∧ Tells json report) ∧
      ∀ report, step.turn.answer = .ok (.shown report) → step.turn.current = some report := by
  have effect : Effect (final none past) (taken past command) := effect_turn _ _
  exact ⟨steps_append_singleton past command, (Reflects.session past).step effect,
    fun report _ => ⟨report.correlationId.plain, report.outcome.description.plain⟩,
    effect.unchanged, succeeded_turn_iff _ _, effect.asked, fun _ => effect.tells,
    fun _ => effect.shows⟩

end Session

end UploadMessages
