import Mathlib.Data.List.Basic
import UploadMessages.Proofs.FirstFault

/-! # What surrounds a JSON text

Spaces, tabs and line ends may stand around a JSON text and change nothing. They make no JSON
text of what is none, and no other white space of Unicode may stand in their place; only a
text that holds nothing else is called empty, whatever white space it holds.
-/

namespace UploadMessages

namespace Json

variable {room : Nat} {v : Value} {cs ds gap : List Char} {c : Char}

def EndsTight (cs : List Char) : Prop := ∃ front c, cs = front ++ [c] ∧ ¬State.IsSpace c

theorem EndsTight.append (cs : List Char) (h : EndsTight ds) : EndsTight (cs ++ ds) := by
  obtain ⟨front, c, rfl, ink⟩ := h
  exact ⟨cs ++ front, c, (List.append_assoc ..).symm, ink⟩

theorem endsTight_toChars {digits : Numeral 10} (nonempty : digits ≠ []) :
    EndsTight digits.toChars := by
  obtain ⟨front, d, rfl⟩ := (List.eq_nil_or_concat' digits).resolve_left nonempty
  exact ⟨Numeral.toChars front, d.char, Numeral.toChars_append front [d], (State.digit_begins d).1⟩

theorem LiteralSpelling.endsTight {l : Literal} (h : LiteralSpelling l cs) : EndsTight cs := by
  obtain ⟨negative, whole, fraction, power⟩ := l
  obtain @⟨fs, es, isWhole, fraction, power⟩ := h
  have mantissa : EndsTight (signSpelling negative ++ whole.toChars ++ fs) := by
    cases fraction with
    | absent =>
      rw [List.append_nil]
      exact (endsTight_toChars isWhole.1).append _
    | present nonempty => exact ((endsTight_toChars nonempty).append ['.']).append _
  cases power with
  | absent =>
    rw [List.append_nil]
    exact mantissa
  | present mark nonempty => exact ((endsTight_toChars nonempty).append _).append _

theorem Spelling.endsTight (h : Spelling room (.value v) cs) : EndsTight cs := by
  cases h with
  | null => exact ⟨['n', 'u', 'l'], 'l', rfl, by decide⟩
  | true => exact ⟨['t', 'r', 'u'], 'e', rfl, by decide⟩
  | false => exact ⟨['f', 'a', 'l', 's'], 'e', rfl, by decide⟩
  | number literal _ => exact literal.endsTight
  | text _ => exact ⟨_, '"', rfl, by decide⟩
  | emptyList _ => exact ⟨_, ']', rfl, by decide⟩
  | list _ => exact ⟨_, ']', rfl, by decide⟩
  | emptyObject _ => exact ⟨_, '\x7d', rfl, by decide⟩
  | object _ => exact ⟨_, '\x7d', rfl, by decide⟩

theorem read_gap_append (blank : IsGap gap) (cs : List Char) : read (gap ++ cs) = read cs := by
  have idle : State.initial.run gap = .ok State.initial :=
    State.run_gap blank fun _ => State.idle_value
  simp only [read, State.run_append_of_run idle]

/-- A gap after a text lies after its value, as no value ends with a space, so the text is a JSON
text without the gap already. -/
theorem isTextOf_append_gap_iff (blank : IsGap gap) : IsTextOf v (cs ++ gap) ↔ IsTextOf v cs := by
  constructor
  · rintro ⟨before, body, after, blank', spelled, blankAfter, same⟩
    rcases List.append_eq_append_iff.mp same with ⟨inner, upTo, rfl⟩ | ⟨inner, rfl, rfl⟩
    · obtain ⟨front, c, rfl, ink⟩ := spelled.endsTight
      rcases List.eq_nil_or_concat' inner with rfl | ⟨inner', last, rfl⟩
      · exact ⟨before, front ++ [c], [], blank', spelled, isGap_nil, by simpa using upTo.symm⟩
      · rw [← List.append_assoc, ← List.append_assoc] at upTo
        cases List.append_inj_right' upTo rfl
        exact absurd (blank c (by simp)) ink
    · exact ⟨before, body, inner, blank', spelled,
        fun c mem => blankAfter c (List.mem_append_left gap mem), rfl⟩
  · rintro ⟨before, body, after, blank', spelled, blankAfter, rfl⟩
    exact ⟨before, body, after ++ gap, blank', spelled, blankAfter.append blank, by simp⟩

/-- White space of Unicode that may not stand between the tokens of a JSON text. -/
def IsForeign (c : Char) : Prop := Text.isBlank c = true ∧ ¬State.IsSpace c

theorem State.begin_of_notMem_starters {places : List Place} (other : c ∉ starters) :
    begin places c = .error .notAValue := by
  have digit : Digit.ofChar? 10 c = none := by
    have written : ∀ d : Digit 10, d.char ∈ starters := by decide
    refine Option.eq_none_iff_forall_ne_some.mpr fun d read => other ?_
    rw [Digit.eq_char_of_ofChar? read]
    exact written d
  simp only [starters, List.mem_cons, List.not_mem_nil, or_false, not_or] at other
  simp [begin, OpenNumber.start?, digit, other]

namespace IsForeign

theorem notMem_starters (h : IsForeign c) : c ∉ State.starters := by
  have noneBlank : State.starters.any Text.isBlank = false := rfl
  exact fun mem => List.any_eq_false.mp noneBlank c mem h.1

theorem endsNumber (h : IsForeign c) : State.EndsNumber c := by
  have noDigit : ∀ d : Digit 10, Text.isBlank d.char = false := by decide
  refine ⟨Option.eq_none_iff_forall_ne_some.mpr fun d read => ?_, ?_, ?_⟩
  · have blank := h.1
    rw [Digit.eq_char_of_ofChar? read, noDigit] at blank
    cases blank
  · rintro rfl
    exact absurd h.1 (by decide)
  · rintro (rfl | rfl)
    · exact absurd h.1 (by decide)
    · exact absurd h.1 (by decide)

/-- No value begins with it. -/
theorem read_before (h : IsForeign c) (blank : IsGap gap) (cs : List Char) :
    read (gap ++ c :: cs) = .error .notAValue := by
  have refused : State.initial.step c = .error .notAValue := by
    simp only [State.initial, State.step, State.next, h.2, if_false]
    exact State.begin_of_notMem_starters h.notMem_starters
  rw [read_gap_append blank]
  exact State.read_of_run_error (State.run_cons_of_error refused cs)

/-- It ends a number that a text may end with, but it is not skipped as a space after one. -/
theorem read_after (h : IsForeign c) (text : IsTextOf v cs) (more : List Char) :
    read (cs ++ c :: more) = .error .trailingCharacters := by
  obtain ⟨s, ran, settled⟩ := State.exists_settles text
  have refused : s.step c = .error .trailingCharacters := by
    rw [settled.step_eq_of_ends h.endsNumber]
    simp only [State.step, State.next, h.2, if_false]
  apply State.read_of_run_error
  rw [State.run_append_of_run ran, State.run_cons_of_error refused]

end IsForeign

def IsText (cs : List Char) : Prop := ∃ v, IsTextOf v cs

theorem isText_append_gap_iff (blank : IsGap gap) : IsText (cs ++ gap) ↔ IsText cs :=
  exists_congr fun _ => isTextOf_append_gap_iff blank

theorem exists_fault_of_not_isText (h : ¬IsText cs) : ∃ fault, read cs = .error fault := by
  cases result : read cs with
  | error fault => exact ⟨fault, rfl⟩
  | ok v => exact absurd ⟨v, read_eq_ok_iff.mp result⟩ h

end Json

open Json (IsForeign IsGap IsText)

def Text.Blank (text : String) : Prop := ∀ c ∈ text.toList, Text.isBlank c = true

variable {text text' : String}

theorem Text.all_isBlank_eq_false (h : ¬Text.Blank text) :
    text.toList.all Text.isBlank = false :=
  Bool.eq_false_iff.mpr fun all => h (List.all_eq_true.mp all)

theorem Text.Blank.of_append (h : Text.Blank (text ++ text')) :
    Text.Blank text ∧ Text.Blank text' := by
  rw [Text.Blank, String.toList_append] at h
  exact List.forall_mem_append.mp h

theorem Payload.members_eq_of_read_eq {schema : Schema} (ink : ¬Text.Blank text)
    (ink' : ¬Text.Blank text') (same : Json.read text.toList = Json.read text'.toList) :
    members schema text = members schema text' := by
  simp only [members, Text.all_isBlank_eq_false ink, Text.all_isBlank_eq_false ink', same]

namespace Inbound

variable {kind : Inbound}

/-- The text is rejected as malformed for a reason, and journalled as such. -/
def Malformed (kind : Inbound) (text reason : String) : Prop :=
  ∃ fault, fault.message = reason ∧
    kind.ofJson text = .reject (.malformedPayload fault) (.payloadRejected fault)

theorem ofJson_eq_of_read_eq (ink : ¬Text.Blank text) (ink' : ¬Text.Blank text')
    (same : Json.read text.toList = Json.read text'.toList) :
    kind.ofJson text = kind.ofJson text' := by
  rw [ofJson_eq_read, ofJson_eq_read, Form.read, Form.read, Intake.payload, Intake.payload,
    Payload.members_eq_of_read_eq ink ink' same]

theorem malformed_of_read {fault : Json.Fault} (ink : ¬Text.Blank text)
    (read : Json.read text.toList = .error fault) : kind.Malformed text fault.message :=
  ⟨.notJson fault, rfl, ofJson_of_fault
    (Payload.members_eq_notJson_iff.mpr ⟨Text.all_isBlank_eq_false ink, read⟩)⟩

theorem malformed_of_blank (blank : Text.Blank text) : kind.Malformed text "payload is empty" := by
  have read : Payload.members kind.schema text = .error .blank := by
    rw [Payload.members, List.all_eq_true.mpr blank]
    rfl
  exact ⟨.blank, rfl, ofJson_of_fault read⟩

end Inbound

/-- Spaces, tabs and line ends before a text change nothing, and after a JSON text neither; a text
that is none they do not make one. Other white space is a fault before a text and after a JSON
text. All white space is the same in a text that holds nothing else. -/
theorem only_spaces_may_surround (kind : Inbound) :
    (∀ text, ¬Text.Blank text → ∀ before after : String,
      IsGap before.toList → IsGap after.toList →
        kind.ofJson (before ++ text) = kind.ofJson text ∧
        (IsText text.toList → kind.ofJson (text ++ after) = kind.ofJson text) ∧
        (¬IsText text.toList → ∃ reason, kind.Malformed (text ++ after) reason) ∧
        ∀ c, IsForeign c →
          kind.Malformed (before ++ String.singleton c ++ text) "expected value" ∧
          (IsText text.toList →
            kind.Malformed (text ++ String.singleton c) "trailing characters")) ∧
    ∀ text, Text.Blank text → kind.Malformed text "payload is empty" := by
  refine ⟨fun text ink before after blank blank' => ?_, fun text => Inbound.malformed_of_blank⟩
  have inkAfter (more : String) : ¬Text.Blank (more ++ text) := fun all => ink all.of_append.2
  have inkBefore (more : String) : ¬Text.Blank (text ++ more) := fun all => ink all.of_append.1
  refine ⟨?_, ?_, ?_, fun c foreign => ⟨?_, ?_⟩⟩
  · apply Inbound.ofJson_eq_of_read_eq (inkAfter before) ink
    rw [String.toList_append, Json.read_gap_append blank]
  · rintro ⟨v, writes⟩
    apply Inbound.ofJson_eq_of_read_eq (inkBefore after) ink
    rw [String.toList_append, Json.read_of_isTextOf writes,
      Json.read_of_isTextOf ((Json.isTextOf_append_gap_iff blank').mpr writes)]
  · intro noText
    have still : ¬IsText (text ++ after).toList := by
      rwa [String.toList_append, Json.isText_append_gap_iff blank']
    obtain ⟨fault, read⟩ := Json.exists_fault_of_not_isText still
    exact ⟨_, Inbound.malformed_of_read (inkBefore after) read⟩
  · have refused : Json.read (before ++ String.singleton c ++ text).toList = .error .notAValue := by
      simpa using foreign.read_before blank text.toList
    exact Inbound.malformed_of_read (inkAfter _) refused
  · rintro ⟨v, writes⟩
    have refused : Json.read (text ++ String.singleton c).toList = .error .trailingCharacters := by
      simpa using foreign.read_after writes []
    exact Inbound.malformed_of_read (inkBefore _) refused

/-- The ideographic space U+3000 is blank, but may not follow an object as a line end may. -/
theorem only_spaces_may_surround_emptyObject :
    Inbound.response.ofJson ("\n\t" ++ "\x7b\x7d") = Inbound.response.ofJson "\x7b\x7d" ∧
    Inbound.response.ofJson ("\x7b\x7d" ++ "\r\n") = Inbound.response.ofJson "\x7b\x7d" ∧
    (∃ reason, Inbound.response.Malformed ("tru" ++ "\r\n") reason) ∧
    Inbound.response.Malformed ("\n\t" ++ String.singleton '\u3000' ++ "\x7b\x7d")
      "expected value" ∧
    Inbound.response.Malformed ("\x7b\x7d" ++ String.singleton '\u3000') "trailing characters" ∧
    Inbound.response.Malformed " \u3000" "payload is empty" := by
  have before : IsGap "\n\t".toList := by simp [IsGap, Json.State.IsSpace]
  have after : IsGap "\r\n".toList := by simp [IsGap, Json.State.IsSpace]
  have foreign : IsForeign '\u3000' := ⟨by decide, by decide⟩
  have object : IsText "\x7b\x7d".toList := ⟨.object [], Json.read_eq_ok_iff.mp (by rfl)⟩
  have inkObject : ¬Text.Blank "\x7b\x7d" := fun all => absurd (all '\x7b' (by decide)) (by decide)
  have inkKeyword : ¬Text.Blank "tru" := fun all => absurd (all 't' (by decide)) (by decide)
  have noText : ¬IsText "tru".toList := by
    rintro ⟨v, writes⟩
    cases (Json.read_of_isTextOf writes).symm.trans
      (show Json.read "tru".toList = .error .endInValue by rfl)
  have blank : Text.Blank " \u3000" := List.all_eq_true.mp (by decide)
  obtain ⟨surrounded, empty⟩ := only_spaces_may_surround .response
  obtain ⟨skipped, kept, -, others⟩ := surrounded _ inkObject _ _ before after
  obtain ⟨refused, trailing⟩ := others _ foreign
  exact ⟨skipped, kept object, (surrounded _ inkKeyword _ _ before after).2.2.1 noText, refused,
    trailing object, empty _ blank⟩

end UploadMessages
