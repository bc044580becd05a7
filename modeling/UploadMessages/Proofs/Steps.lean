import UploadMessages.Proofs.LastValues
import UploadMessages.Proofs.RoundTrip

/-! # Steps of a session

A step is a command with the turn that it led to. The steps of a session may be those
of any number of callers, in whatever order their commands come. What a step can do
to the current report is said once, in `Effect`.
-/

namespace UploadMessages

open Json (IsTextOf)

/-- An accepted message shows the members of its text. -/
theorem Inbound.exists_shows {kind : Inbound} {text : String} {m : kind.Message}
    (h : (kind.ofJson text).result = .ok m) :
    ∃ ms, IsTextOf (.object ms) text.toList ∧ kind.Shows m ms := by
  obtain ⟨ms, writes, -, accepted⟩ := exists_members_of_accepted h
  exact ⟨ms, writes, shows_of_ofMembers accepted⟩

namespace Session

inductive Command.NamesId : Command → String → Prop
  | build {id : String} {draft : Outcome.Draft} : NamesId (.build (some id) draft) id
  | read {json id : String} {ms : Json.Members} (writes : IsTextOf (.object ms) json.toList)
    (last : ms.last? Key.correlationId.name = some (.text id)) : NamesId (.read json) id

/-- The outcome that a command gives: whether it is a success, its code and its description. -/
inductive Command.Gives : Command → Bool → Int → String → Prop
  | build {id : Option String} {flag : Bool} {code : Signed 32} {description : String} :
    Gives (.build id ⟨some flag, some code, some description⟩) flag code.value description
  | read {json description : String} {flag : Bool} {l : Json.Literal} {ms : Json.Members}
    (writes : IsTextOf (.object ms) json.toList)
    (lastFlag : ms.last? Key.isSuccess.name = some (.boolean flag))
    (lastCode : ms.last? Key.statusCode.name = some (.number l)) (plain : l.IsPlain)
    (lastDescription : ms.last? Key.statusDescription.name = some (.text description)) :
    Gives (.read json) flag l.integer description
  | update {flag : Bool} {code : Signed 32} {description : String} :
    Gives (.update ⟨some flag, some code, some description⟩) flag code.value description

abbrev Command.GivesOutcome (command : Command) (outcome : Outcome) : Prop :=
  command.Gives outcome.isSuccess outcome.statusCode.value outcome.description.text

theorem supplies_of_ofJson {json : String} {report : StatusReport}
    (h : (StatusReport.ofJson json).result = .ok report) :
    (Command.read json).NamesId report.correlationId.text ∧
      (Command.read json).GivesOutcome report.outcome := by
  obtain ⟨ms, writes, shows⟩ := @Inbound.exists_shows .statusReport _ _ h
  obtain ⟨_, hid, id⟩ := shows (.correlationId, .text) (by decide)
  obtain ⟨_, hflag, flag⟩ := shows (.isSuccess, .flag) (by decide)
  obtain ⟨_, hcode, code⟩ := shows (.statusCode, .integer 32) (by decide)
  obtain ⟨_, hdescription, description⟩ := shows (.statusDescription, .text) (by decide)
  cases hid
  cases hflag
  cases hcode
  cases hdescription
  refine ⟨.read writes id, ?_⟩
  obtain ⟨l, code, denotes⟩ := code
  obtain ⟨plain, -, value, -⟩ := Json.Literal.toInt?_eq_some_iff.mp denotes
  rw [Command.GivesOutcome, value]
  exact .read writes flag code plain description

structure Step where
  command : Command
  turn : Turn

/-- What a step makes of the current report. -/
inductive Effect (current : Option StatusReport) : Step → Prop
  | rejected {command : Command} {rejection : Rejection} {events : List Event}
    (notAsking : command ≠ .write ∧ command ≠ .inspect) :
    Effect current ⟨command, .error rejection, current, events⟩
  | founded {command : Command} {report : StatusReport} {events : List Event}
    (founds : command.Founds) (id : command.NamesId report.correlationId.text)
    (outcome : command.GivesOutcome report.outcome) :
    Effect current ⟨command, .ok .built, some report, events⟩
  | updated {draft : Outcome.Draft} {report report' : StatusReport} {events : List Event}
    (was : current = some report) (id : report'.correlationId = report.correlationId)
    (outcome : (Command.update draft).GivesOutcome report'.outcome) :
    Effect current ⟨.update draft, .ok (.written report'.toJson), some report', events⟩
  | written {report : StatusReport} {events : List Event} (was : current = some report) :
    Effect current ⟨.write, .ok (.written report.toJson), some report, events⟩
  | shown {report : StatusReport} {events : List Event} (was : current = some report) :
    Effect current ⟨.inspect, .ok (.shown report), some report, events⟩
  | idle {command : Command} {events : List Event} (was : current = none)
    (founds : ¬command.Founds) : Effect current ⟨command, .ok .noReport, none, events⟩

/-- A command that makes a report does nothing if the report is rejected. -/
theorem effect_ofReport {current : Option StatusReport} {command : Command}
    {made : Logged StatusReport} {reply : StatusReport → Reply}
    (notAsking : command ≠ .write ∧ command ≠ .inspect)
    (accepted : ∀ report events, made.result = .ok report →
      Effect current ⟨command, .ok (reply report), some report, events⟩) :
    Effect current ⟨command, .ofReport current made reply⟩ := by
  unfold Turn.ofReport
  split
  · rename_i report result
    exact accepted report _ result
  · exact .rejected notAsking

theorem effect_turn (current : Option StatusReport) (command : Command) :
    Effect current ⟨command, turn current command⟩ := by
  cases command with
  | build id draft =>
    rw [turn_build]
    apply effect_ofReport (by simp)
    intro report events built
    obtain ⟨rfl, outcome⟩ := StatusReport.of_ofDraft_ok built
    obtain rfl := Outcome.of_ofDraft_ok outcome
    exact .founded trivial .build .build
  | read json =>
    rw [turn_read]
    apply effect_ofReport (by simp)
    intro report events read
    obtain ⟨id, outcome⟩ := supplies_of_ofJson read
    exact .founded trivial id outcome
  | update draft =>
    cases current with
    | none => exact .idle rfl not_false
    | some report =>
      rw [turn_update]
      apply effect_ofReport (by simp)
      intro report' events updated
      obtain ⟨id, outcome⟩ := StatusReport.of_update_ok updated
      obtain rfl := Outcome.of_ofDraft_ok outcome
      exact .updated rfl id .update
  | write =>
    cases current with
    | none => exact .idle rfl not_false
    | some report => exact .written rfl
  | inspect =>
    cases current with
    | none => exact .idle rfl not_false
    | some report => exact .shown rfl

/-- A text is only ever given as that of the current report. -/
theorem Effect.writes {current : Option StatusReport} {s : Step} (effect : Effect current s)
    {json : String} (answer : s.turn.answer = .ok (.written json)) :
    ∃ report, s.turn.current = some report ∧ json = report.toJson := by
  cases effect with
  | rejected => cases answer
  | founded => cases answer
  | @updated _ _ report' =>
    rw [Except.ok.injEq, Reply.written.injEq] at answer
    exact ⟨report', rfl, answer.symm⟩
  | @written report =>
    rw [Except.ok.injEq, Reply.written.injEq] at answer
    exact ⟨report, rfl, answer.symm⟩
  | shown => cases answer
  | idle => cases answer

def steps (commands : List Command) : List Step := List.zipWith Step.mk commands (run none commands)

def taken (past : List Command) (command : Command) : Step :=
  ⟨command, turn (final none past) command⟩

theorem length_run (current : Option StatusReport) (commands : List Command) :
    (run current commands).length = commands.length := by
  induction commands generalizing current with
  | nil => rfl
  | cons command later ih => simp [run, ih]

theorem exists_of_mem_run {current : Option StatusReport} {commands : List Command} {t : Turn}
    (h : t ∈ run current commands) : ∃ before command, t = turn before command := by
  induction commands generalizing current with
  | nil => cases h
  | cons command later ih =>
    rcases List.mem_cons.mp h with rfl | h
    · exact ⟨current, command, rfl⟩
    · exact ih h

theorem steps_append_singleton (past : List Command) (command : Command) :
    steps (past ++ [command]) = steps past ++ [taken past command] := by
  rw [steps, run_append, List.zipWith_append (length_run none past).symm]
  rfl

theorem final_append_singleton (current : Option StatusReport) (past : List Command)
    (command : Command) : final current (past ++ [command]) =
      (turn (final current past) command).current := by
  induction past generalizing current with
  | nil => rfl
  | cons first past ih => exact ih _

end Session

end UploadMessages
