import UploadMessages.Journal
import UploadMessages.Proofs.Timestamp.Forms

/-! # How timestamps are read

A timestamp is put to a row of tests, and the first that it fails is the reason for its
rejection. The tests are stated here of the text itself, and the seconds by adding up the
lengths of years, months and days; each text comes to just one end.
-/

namespace UploadMessages

structure WritesNumber (width : Nat) (cs : List Char) (n : Nat) : Prop where
  length : cs.length = width
  areDigits : ∀ c ∈ cs, c.isDigit = true
  value : n = Nat.ofDigitChars 10 cs 0

theorem WritesNumber.exists_eq_toChars {width n : Nat} {cs : List Char}
    (h : WritesNumber width cs n) :
    ∃ ds : Numeral 10, cs = ds.toChars ∧ ds.length = width ∧ n = ds.value := by
  obtain ⟨rfl, areDigits, rfl⟩ := h
  obtain ⟨ds, rfl⟩ := Numeral.exists_eq_toChars areDigits
  exact ⟨ds, rfl, (List.length_map _).symm, (Numeral.value_eq_ofDigitChars ds).symm⟩

theorem Numeral.writesNumber_toChars (ds : Numeral 10) :
    WritesNumber ds.length ds.toChars ds.value :=
  ⟨List.length_map _, fun _ mem => isDigit_of_mem_toChars mem, value_eq_ofDigitChars ds⟩

theorem writesNumber_iff {width n : Nat} {cs : List Char} : WritesNumber width cs n ↔
    n < Nat.pow 10 width ∧ cs = (Numeral.padded 10 width n).toChars := by
  constructor
  · intro h
    obtain ⟨ds, rfl, rfl, rfl⟩ := h.exists_eq_toChars
    rw [Numeral.padded_value]
    exact ⟨Numeral.value_lt ds, rfl⟩
  · rintro ⟨fits, rfl⟩
    have writes := (Numeral.padded 10 width n).writesNumber_toChars
    rwa [Numeral.length_padded, Numeral.value_padded, Nat.mod_eq_of_lt fits] at writes

/-- The form of a head, which is `dddd-dd-ddTdd:dd:dd`, and the time that it names. -/
inductive HeadForm (t : CivilTime) : List Char → Prop
  | intro {y m d h n s : List Char} (year : WritesNumber 4 y t.year)
    (month : WritesNumber 2 m t.month) (day : WritesNumber 2 d t.day)
    (hour : WritesNumber 2 h t.hour) (minute : WritesNumber 2 n t.minute)
    (second : WritesNumber 2 s t.second) :
    HeadForm t (y ++ '-' :: m ++ '-' :: d ++ 'T' :: h ++ ':' :: n ++ ':' :: s)

theorem ofChars?_eq_some_iff_headForm {front : List Char} {t : CivilTime} :
    CivilTime.ofChars? front = some t ↔ HeadForm t front := by
  rw [CivilTime.ofChars?_eq_some_iff]
  constructor
  · rintro ⟨⟨year, month, day, hour, minute, second⟩, rfl⟩
    exact .intro (writesNumber_iff.mpr ⟨year, rfl⟩) (writesNumber_iff.mpr ⟨month, rfl⟩)
      (writesNumber_iff.mpr ⟨day, rfl⟩) (writesNumber_iff.mpr ⟨hour, rfl⟩)
      (writesNumber_iff.mpr ⟨minute, rfl⟩) (writesNumber_iff.mpr ⟨second, rfl⟩)
  · rintro ⟨year, month, day, hour, minute, second⟩
    obtain ⟨fitsYear, rfl⟩ := writesNumber_iff.mp year
    obtain ⟨fitsMonth, rfl⟩ := writesNumber_iff.mp month
    obtain ⟨fitsDay, rfl⟩ := writesNumber_iff.mp day
    obtain ⟨fitsHour, rfl⟩ := writesNumber_iff.mp hour
    obtain ⟨fitsMinute, rfl⟩ := writesNumber_iff.mp minute
    obtain ⟨fitsSecond, rfl⟩ := writesNumber_iff.mp second
    exact ⟨⟨fitsYear, fitsMonth, fitsDay, fitsHour, fitsMinute, fitsSecond⟩, rfl⟩

/-- The seconds from 1970-01-01T00:00:00Z to a time, whose leap second counts as the one before. -/
def CivilTime.secondsFromEpoch (t : CivilTime) : Int :=
  Calendar.daysFromEpoch t.year t.month t.day * 86400 +
    (t.hour * 3600 + t.minute * 60 + if t.second = 60 then 59 else t.second : Nat)

theorem CivilTime.Occurs.seconds_eq {t : CivilTime} (h : t.Occurs) :
    t.instant.seconds = t.secondsFromEpoch := by
  obtain ⟨day, -, -, second⟩ := h
  have last : min t.second 59 = if t.second = 60 then 59 else t.second := by
    split <;> omega
  rw [secondsFromEpoch, instant, Calendar.dayNumber_eq_daysFromEpoch day, last]

namespace Timestamp

/-- The tests of a head. A text that passes them has a time, and a tail after it. -/
inductive HeadReading (text : String) : Except String (CivilTime × String) → Prop
  | empty (h : text = "") : HeadReading text (.error "empty")
  | tooShort (nonempty : text ≠ "") (h : ¬String.Pos.Raw.IsValid text ⟨19⟩) :
    HeadReading text (.error "too short")
  | notATime {front tail : String} (split : text = front ++ tail)
    (size : front.utf8ByteSize = 19) (h : ∀ t, ¬HeadForm t front.toList) :
    HeadReading text (.error "expected YYYY-MM-DDTHH:MM:SS")
  | noSuchTime {front tail : String} {t : CivilTime} (split : text = front ++ tail)
    (size : front.utf8ByteSize = 19) (form : HeadForm t front.toList) (h : ¬t.Occurs) :
    HeadReading text (.error "input is out of range")
  | passed {front tail : String} {t : CivilTime} (split : text = front ++ tail)
    (size : front.utf8ByteSize = 19) (form : HeadForm t front.toList) (occurs : t.Occurs) :
    HeadReading text (.ok (t, tail))

inductive UtcReading (text : String) : Except String Instant → Prop
  | head {reason : String} (head : HeadReading text (.error reason)) :
    UtcReading text (.error reason)
  | notAFraction {t : CivilTime} {tail : String} (head : HeadReading text (.ok (t, tail)))
    (h : ∀ mid, tail ≠ "." ++ mid ++ "Z") :
    UtcReading text (.error "expected `.<fraction>Z` after seconds")
  | fractionDigits {t : CivilTime} {mid : String}
    (head : HeadReading text (.ok (t, "." ++ mid ++ "Z")))
    (h : ∀ width f, 1 ≤ width → width ≤ 9 → ¬WritesNumber width mid.toList f) :
    UtcReading text (.error "fraction must be 1 to 9 digits")
  | carried {t : CivilTime} {mid : String} {width f : Nat}
    (head : HeadReading text (.ok (t, "." ++ mid ++ "Z"))) (nonempty : 1 ≤ width) (few : width ≤ 9)
    (digits : WritesNumber width mid.toList f) (h : t.second ≠ 60 ∨ 1000 ≤ f) :
    UtcReading text (.ok ⟨t.secondsFromEpoch + (f / 1000 : Nat), f % 1000 * 1000000⟩)
  | inLeapSecond {t : CivilTime} {mid : String} {width f : Nat}
    (head : HeadReading text (.ok (t, "." ++ mid ++ "Z"))) (nonempty : 1 ≤ width) (few : width ≤ 9)
    (digits : WritesNumber width mid.toList f) (leap : t.second = 60) (h : f < 1000) :
    UtcReading text (.ok ⟨t.secondsFromEpoch, 1000000000 + f * 1000000⟩)

variable {text : String}

theorem cut_append {front tail : String} (size : front.utf8ByteSize = 19) :
    Text.cut headBytes (front ++ tail).toList = some (front.toList, tail.toList) :=
  Text.cut_eq_some_iff.mpr ⟨String.toList_append, (Text.byteSize_toList front).trans size⟩

theorem exists_append_of_isValid (h : String.Pos.Raw.IsValid text ⟨19⟩) :
    ∃ front tail, text = front ++ tail ∧ front.utf8ByteSize = 19 := by
  obtain ⟨front, tail, split, place⟩ := String.Pos.Raw.isValid_iff_exists_append.mp h
  exact ⟨front, tail, split, (congrArg String.Pos.Raw.byteIdx place).symm⟩

theorem cut_eq_none (h : ¬String.Pos.Raw.IsValid text ⟨19⟩) :
    Text.cut headBytes text.toList = none := by
  cases split : Text.cut headBytes text.toList with
  | none => rfl
  | some parts =>
    obtain ⟨whole, size⟩ := Text.cut_eq_some_iff.mp split
    refine absurd (String.Pos.Raw.isValid_iff_exists_append.mpr
      ⟨String.ofList parts.1, String.ofList parts.2, ?_, ?_⟩) h
    · rw [← String.ofList_append, ← whole, String.ofList_toList]
    · rw [String.Pos.Raw.ext_iff, String.byteIdx_rawEndPos, ← Text.byteSize_toList,
        String.toList_ofList, size, headBytes]

def told (r : Except Fault (CivilTime × List Char)) : Except String (CivilTime × String) :=
  match r with
  | .ok (t, tail) => .ok (t, String.ofList tail)
  | .error fault => .error fault.message

theorem HeadReading.eq {r : Except String (CivilTime × String)} (h : HeadReading text r) :
    r = told (head text.toList) := by
  have nonempty {front tail : String} (size : front.utf8ByteSize = 19) :
      (front ++ tail).toList.isEmpty = false := by
    rw [List.isEmpty_eq_false_iff, ne_eq, String.toList_eq_nil_iff]
    intro empty
    have whole := congrArg String.utf8ByteSize empty
    rw [String.utf8ByteSize_append, size] at whole
    exact absurd whole (by simp)
  have unnamed {front : String} (h : ∀ t, ¬HeadForm t front.toList) :
      CivilTime.ofChars? front.toList = none :=
    Option.eq_none_iff_forall_ne_some.mpr fun t named =>
      h t (ofChars?_eq_some_iff_headForm.mp named)
  cases h with
  | empty h =>
    subst h
    rfl
  | tooShort h short =>
    have notEmpty : text.toList.isEmpty = false := by simpa using h
    simp only [head, notEmpty, cut_eq_none short]
    rfl
  | notATime split size h =>
    subst split
    simp only [head, nonempty size, cut_append size, unnamed h]
    rfl
  | noSuchTime split size form h =>
    subst split
    simp only [head, nonempty size, cut_append size, ofChars?_eq_some_iff_headForm.mpr form, h]
    rfl
  | passed split size form occurs =>
    subst split
    simp only [head, nonempty size, cut_append size, ofChars?_eq_some_iff_headForm.mpr form]
    rw [if_neg Bool.false_ne_true, if_pos occurs, told, String.ofList_toList]

theorem exists_headReading (text : String) : ∃ r, HeadReading text r := by
  by_cases empty : text = ""
  · exact ⟨_, .empty empty⟩
  by_cases place : String.Pos.Raw.IsValid text ⟨19⟩
  · obtain ⟨front, tail, split, size⟩ := exists_append_of_isValid place
    by_cases form : ∃ t, HeadForm t front.toList
    · obtain ⟨t, form⟩ := form
      by_cases occurs : t.Occurs
      · exact ⟨_, .passed split size form occurs⟩
      · exact ⟨_, .noSuchTime split size form occurs⟩
    · exact ⟨_, .notATime split size (not_exists.mp form)⟩
  · exact ⟨_, .tooShort empty place⟩

theorem HeadReading.parts {t : CivilTime} {tail : String} (h : HeadReading text (.ok (t, tail))) :
    Parts text t tail.toList := by
  have read := h.eq
  unfold told at read
  split at read
  · rename_i t' tail' split
    cases read
    rw [String.toList_ofList]
    exact head_eq_ok_iff.mp split
  · cases read

theorem HeadReading.exists_fault {reason : String} (h : HeadReading text (.error reason)) :
    ∃ fault, head text.toList = .error fault ∧ reason = fault.message := by
  have read := h.eq
  unfold told at read
  split at read
  · cases read
  · rename_i fault split
    cases read
    exact ⟨fault, split, rfl⟩

theorem toList_between (mid : String) :
    ("." ++ mid ++ "Z").toList = '.' :: mid.toList ++ ['Z'] := by
  simp

theorem fractionForm_of_writesNumber {mid : String} {width f : Nat} (nonempty : 1 ≤ width)
    (few : width ≤ 9) (digits : WritesNumber width mid.toList f) :
    FractionForm f ("." ++ mid ++ "Z").toList := by
  obtain ⟨ds, written, rfl, rfl⟩ := digits.exists_eq_toChars
  rw [toList_between, written]
  exact .intro (List.length_pos_iff.mp nonempty) few

theorem UtcReading.eq {r : Except String Instant} (h : UtcReading text r) :
    r = (utc text).mapError Fault.message := by
  cases h with
  | head head =>
    obtain ⟨fault, refused, rfl⟩ := head.exists_fault
    rw [utc_eq_error_iff.mpr (.inl refused)]
    rfl
  | @notAFraction t tail head h =>
    have refused : fraction tail.toList = .error .notAFraction := by
      refine fraction_of_not_between fun mid same => h (String.ofList mid) ?_
      rw [← String.toList_inj, same, toList_between, String.toList_ofList]
    rw [utc_eq_error_iff.mpr (.inr ⟨t, _, head.parts, refused⟩)]
    rfl
  | @fractionDigits t mid head h =>
    have refused : fraction ("." ++ mid ++ "Z").toList = .error .fractionDigits := by
      rw [toList_between]
      refine fraction_of_not_digits fun digits same nonempty => ?_
      by_contra few
      refine h digits.length digits.value (List.length_pos_iff.mpr nonempty) (Nat.not_lt.mp few) ?_
      rw [same]
      exact digits.writesNumber_toChars
    rw [utc_eq_error_iff.mpr (.inr ⟨t, _, head.parts, refused⟩)]
    rfl
  | @carried t mid width f head nonempty few digits h =>
    have leave : ¬(t.second = 60 ∧ f < 1000) := by omega
    have form := fractionForm_of_writesNumber nonempty few digits
    rw [utc_eq_ok_iff.mpr ⟨t, _, f, head.parts, form, rfl⟩, CivilTime.instant_addMillis,
      if_neg leave, head.parts.occurs.seconds_eq]
    rfl
  | @inLeapSecond t mid width f head nonempty few digits leap h =>
    have form := fractionForm_of_writesNumber nonempty few digits
    rw [utc_eq_ok_iff.mpr ⟨t, _, f, head.parts, form, rfl⟩, CivilTime.instant_addMillis,
      if_pos ⟨leap, h⟩, head.parts.occurs.seconds_eq]
    rfl

theorem exists_utcReading (text : String) : ∃ r, UtcReading text r := by
  obtain ⟨reason | ⟨t, tail⟩, head⟩ := exists_headReading text
  · exact ⟨_, .head head⟩
  by_cases between : ∃ mid, tail = "." ++ mid ++ "Z"
  · obtain ⟨mid, rfl⟩ := between
    by_cases digits : ∃ width f, 1 ≤ width ∧ width ≤ 9 ∧ WritesNumber width mid.toList f
    · obtain ⟨width, f, nonempty, few, digits⟩ := digits
      by_cases carried : t.second ≠ 60 ∨ 1000 ≤ f
      · exact ⟨_, .carried head nonempty few digits carried⟩
      · exact ⟨_, .inLeapSecond head nonempty few digits (by omega) (by omega)⟩
    · refine ⟨_, .fractionDigits head fun width f nonempty few writes => ?_⟩
      exact digits ⟨width, f, nonempty, few, writes⟩
  · exact ⟨_, .notAFraction head (not_exists.mp between)⟩

theorem mapError_message_eq_ok_iff {α : Type} {r : Except Fault α} {a : α} :
    Except.ok a = r.mapError Fault.message ↔ r = .ok a := by
  cases r <;> simp [Except.mapError, eq_comm]

theorem mapError_message_eq_error_iff {α : Type} {r : Except Fault α} {fault : Fault} :
    Except.error fault.message = r.mapError Fault.message ↔ r = .error fault := by
  cases r with
  | ok a => simp [Except.mapError]
  | error fault' =>
    simp only [Except.mapError, Except.error.injEq]
    exact ⟨fun same => (Fault.message_injective same).symm, fun same => congrArg _ same.symm⟩

theorem utcReading_iff {r : Except String Instant} :
    UtcReading text r ↔ r = (utc text).mapError Fault.message := by
  refine ⟨UtcReading.eq, ?_⟩
  rintro rfl
  obtain ⟨r, reading⟩ := exists_utcReading text
  rwa [← reading.eq]

/-- A text has one reading as a timestamp in UTC. If this is an instant, the text is taken in as
that instant, and if it is a reason, the text is rejected whole for that reason. -/
theorem utc_decided_by_first_failed_test (text : String) :
    (∃! r, UtcReading text r) ∧
    (∀ i, (Intake.time utc text).result = .ok i ↔ UtcReading text (.ok i)) ∧
    ∀ rejection, (Intake.time utc text).result = .error rejection ↔
      ∃ fault, rejection = .invalidTimestamp text fault ∧ UtcReading text (.error fault.message) := by
  refine ⟨?_, fun i => ?_, fun rejection => ?_⟩
  · simp only [utcReading_iff]
    exact ⟨_, rfl, fun _ same => same⟩
  · rw [Intake.time_eq_ok_iff, utcReading_iff, mapError_message_eq_ok_iff]
  · simp only [Intake.time_eq_error_iff, utcReading_iff, mapError_message_eq_error_iff]

end Timestamp

end UploadMessages
