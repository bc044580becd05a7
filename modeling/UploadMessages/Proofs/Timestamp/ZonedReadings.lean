import UploadMessages.Proofs.Timestamp.Readings

/-! # How timestamps with an offset are read

The tests of the head are those of every timestamp. Those of the offset are stated of the bytes
of the tail: which bytes stand in its places, then which sign it has, then how large it is. The
text may hold characters of several bytes, but none of them passes for a part of an offset.
-/

namespace UploadMessages.Timestamp

/-- The shape of an offset is six bytes: some byte in the place of the sign, two digits, a colon
and two digits. -/
inductive OffsetShape (sign : UInt8) (hours minutes : Nat) (tail : String) : Prop
  | intro {hh mm : List Char} (writesHours : WritesNumber 2 hh hours)
    (writesMinutes : WritesNumber 2 mm minutes)
    (bytes : Text.bytes tail = sign :: (hh ++ ':' :: mm).map Char.toUInt8) :
    OffsetShape sign hours minutes tail

inductive OffsetReading (tail : String) : Except String Int → Prop
  | bare (h : tail = "Z") : OffsetReading tail (.ok 0)
  | notAnOffset (notBare : tail ≠ "Z")
    (h : ∀ sign hours minutes, ¬OffsetShape sign hours minutes tail) :
    OffsetReading tail (.error "expected offset ±HH:MM")
  | offsetSign {sign : UInt8} {hours minutes : Nat} (shape : OffsetShape sign hours minutes tail)
    (h : sign ≠ '+'.toUInt8 ∧ sign ≠ '-'.toUInt8) :
    OffsetReading tail (.error "offset must start with + or -")
  | offsetRange {sign : UInt8} {hours minutes : Nat} (shape : OffsetShape sign hours minutes tail)
    (signed : sign = '+'.toUInt8 ∨ sign = '-'.toUInt8) (h : 23 < hours ∨ 59 < minutes) :
    OffsetReading tail (.error "offset out of range")
  | ahead {hours minutes : Nat} (shape : OffsetShape '+'.toUInt8 hours minutes tail)
    (h : hours ≤ 23) (m : minutes ≤ 59) :
    OffsetReading tail (.ok (hours * 3600 + minutes * 60 : Nat))
  | behind {hours minutes : Nat} (shape : OffsetShape '-'.toUInt8 hours minutes tail)
    (h : hours ≤ 23) (m : minutes ≤ 59) :
    OffsetReading tail (.ok (-(hours * 3600 + minutes * 60 : Nat)))

/-- The tests of a timestamp with an offset, and the instant of a text that passes them. An offset
moves the seconds only; the nanoseconds tell of a leap second. -/
inductive ZonedReading (text : String) : Except String Instant → Prop
  | head {reason : String} (head : HeadReading text (.error reason)) :
    ZonedReading text (.error reason)
  | offset {t : CivilTime} {tail reason : String} (head : HeadReading text (.ok (t, tail)))
    (offset : OffsetReading tail (.error reason)) : ZonedReading text (.error reason)
  | passed {t : CivilTime} {tail : String} {seconds : Int}
    (head : HeadReading text (.ok (t, tail))) (offset : OffsetReading tail (.ok seconds)) :
    ZonedReading text
      (.ok ⟨t.secondsFromEpoch - seconds, if t.second = 60 then 1000000000 else 0⟩)

variable {text tail : String} {sign : UInt8} {hours minutes : Nat}

/-- Bytes in the places of digits and colon can only be these characters, so what stands in the
place of the sign is one character as well. -/
theorem offsetShape_iff : OffsetShape sign hours minutes tail ↔ hours < 100 ∧ minutes < 100 ∧
    ∃ c : Char, c.utf8Size = 1 ∧ c.toUInt8 = sign ∧ tail.toList = clock c hours minutes := by
  have narrow : Text.Narrow ((Numeral.padded 10 2 hours).toChars ++
      ':' :: (Numeral.padded 10 2 minutes).toChars) :=
    List.forall_mem_append.mpr ⟨Numeral.narrow_toChars _,
      List.forall_mem_cons.mpr ⟨rfl, Numeral.narrow_toChars _⟩⟩
  constructor
  · rintro ⟨writesHours, writesMinutes, bytes⟩
    obtain ⟨fewHours, rfl⟩ := writesNumber_iff.mp writesHours
    obtain ⟨fewMinutes, rfl⟩ := writesNumber_iff.mp writesMinutes
    exact ⟨fewHours, fewMinutes, (Text.bytes_eq_cons_iff narrow).mp bytes⟩
  · rintro ⟨fewHours, fewMinutes, written⟩
    exact .intro (writesNumber_iff.mpr ⟨fewHours, rfl⟩) (writesNumber_iff.mpr ⟨fewMinutes, rfl⟩)
      ((Text.bytes_eq_cons_iff narrow).mpr written)

theorem offset_of_shape (shape : OffsetShape sign hours minutes tail) : offset tail.toList =
    if sign ≠ '+'.toUInt8 ∧ sign ≠ '-'.toUInt8 then .error .offsetSign
    else if 23 < hours ∨ 59 < minutes then .error .offsetRange
    else .ok (if sign = '-'.toUInt8 then -(hours * 3600 + minutes * 60 : Nat)
      else (hours * 3600 + minutes * 60 : Nat)) := by
  obtain ⟨fewHours, fewMinutes, c, single, rfl, written⟩ := offsetShape_iff.mp shape
  have plus : c.toUInt8 = '+'.toUInt8 ↔ c = '+' := Text.byte_eq_iff single rfl
  have minus : c.toUInt8 = '-'.toUInt8 ↔ c = '-' := Text.byte_eq_iff single rfl
  rw [written, offset_clock c fewHours fewMinutes, if_neg (Decidable.not_not.mpr single)]
  simp only [ne_eq, plus, minus]

theorem offset_of_no_shape (notBare : tail ≠ "Z")
    (h : ∀ sign hours minutes, ¬OffsetShape sign hours minutes tail) :
    offset tail.toList = .error .notAnOffset := by
  rcases offset_cases tail.toList with
    bare | ⟨c, hours, minutes, fewHours, fewMinutes, written⟩ | refused
  · exact absurd (String.toList_inj.mp bare) notBare
  · rw [written, offset_clock c fewHours fewMinutes]
    refine if_pos fun single => h c.toUInt8 hours minutes ?_
    exact offsetShape_iff.mpr ⟨fewHours, fewMinutes, c, single, rfl, written⟩
  · exact refused

theorem OffsetReading.eq {r : Except String Int} (h : OffsetReading tail r) :
    r = (offset tail.toList).mapError Fault.message := by
  cases h with
  | bare h =>
    subst h
    rfl
  | notAnOffset notBare h =>
    rw [offset_of_no_shape notBare h]
    rfl
  | offsetSign shape h =>
    rw [offset_of_shape shape, if_pos h]
    rfl
  | offsetRange shape signed h =>
    rw [offset_of_shape shape, if_neg (not_and_or.mpr (signed.imp not_not.mpr not_not.mpr)),
      if_pos h]
    rfl
  | ahead shape h m =>
    rw [offset_of_shape shape, if_neg (by decide), if_neg (by omega), if_neg (by decide)]
    rfl
  | behind shape h m =>
    rw [offset_of_shape shape, if_neg (by decide), if_neg (by omega), if_pos rfl]
    rfl

theorem exists_offsetReading (tail : String) : ∃ r, OffsetReading tail r := by
  by_cases bare : tail = "Z"
  · exact ⟨_, .bare bare⟩
  by_cases shaped : ∃ sign hours minutes, OffsetShape sign hours minutes tail
  · obtain ⟨sign, hours, minutes, shape⟩ := shaped
    by_cases signed : sign = '+'.toUInt8 ∨ sign = '-'.toUInt8
    · by_cases far : 23 < hours ∨ 59 < minutes
      · exact ⟨_, .offsetRange shape signed far⟩
      · rcases signed with rfl | rfl
        · exact ⟨_, .ahead shape (by omega) (by omega)⟩
        · exact ⟨_, .behind shape (by omega) (by omega)⟩
    · exact ⟨_, .offsetSign shape (not_or.mp signed)⟩
  · simp only [not_exists] at shaped
    exact ⟨_, .notAnOffset bare shaped⟩

theorem OffsetReading.form {seconds : Int} (h : OffsetReading tail (.ok seconds)) :
    OffsetForm seconds tail.toList :=
  offset_eq_ok_iff.mp (mapError_message_eq_ok_iff.mp h.eq)

theorem OffsetReading.exists_fault {reason : String} (h : OffsetReading tail (.error reason)) :
    ∃ fault, offset tail.toList = .error fault ∧ reason = fault.message := by
  have read := h.eq
  cases refused : offset tail.toList with
  | ok seconds =>
    rw [refused] at read
    cases read
  | error fault =>
    rw [refused] at read
    cases read
    exact ⟨fault, rfl, rfl⟩

theorem ZonedReading.eq {r : Except String Instant} (h : ZonedReading text r) :
    r = (zoned text).mapError Fault.message := by
  cases h with
  | head head =>
    obtain ⟨fault, refused, rfl⟩ := head.exists_fault
    rw [zoned_eq_error_iff.mpr (.inl refused)]
    rfl
  | @offset t _ _ head offset =>
    obtain ⟨fault, refused, rfl⟩ := offset.exists_fault
    rw [zoned_eq_error_iff.mpr (.inr ⟨t, _, head.parts, refused⟩)]
    rfl
  | @passed t _ seconds head offset =>
    rw [zoned_eq_ok_iff.mpr ⟨t, _, seconds, head.parts, offset.form, rfl⟩,
      ← head.parts.occurs.seconds_eq]
    rfl

theorem exists_zonedReading (text : String) : ∃ r, ZonedReading text r := by
  obtain ⟨reason | ⟨t, tail⟩, head⟩ := exists_headReading text
  · exact ⟨_, .head head⟩
  obtain ⟨reason | seconds, offset⟩ := exists_offsetReading tail
  · exact ⟨_, .offset head offset⟩
  · exact ⟨_, .passed head offset⟩

theorem zonedReading_iff {r : Except String Instant} :
    ZonedReading text r ↔ r = (zoned text).mapError Fault.message := by
  refine ⟨ZonedReading.eq, ?_⟩
  rintro rfl
  obtain ⟨r, reading⟩ := exists_zonedReading text
  rwa [← reading.eq]

/-- A text has one reading as a timestamp with an offset. If this is an instant, the text is taken
in as that instant, and if it is a reason, the text is rejected whole for that reason. -/
theorem zoned_decided_by_first_failed_test (text : String) :
    (∃! r, ZonedReading text r) ∧
    (∀ i, (Intake.time zoned text).result = .ok i ↔ ZonedReading text (.ok i)) ∧
    ∀ rejection, (Intake.time zoned text).result = .error rejection ↔
      ∃ fault, rejection = .invalidTimestamp text fault ∧
        ZonedReading text (.error fault.message) := by
  refine ⟨?_, fun i => ?_, fun rejection => ?_⟩
  · simp only [zonedReading_iff]
    exact ⟨_, rfl, fun _ same => same⟩
  · rw [Intake.time_eq_ok_iff, zonedReading_iff, mapError_message_eq_ok_iff]
  · simp only [Intake.time_eq_error_iff, zonedReading_iff, mapError_message_eq_error_iff]

end UploadMessages.Timestamp
