import Mathlib.Data.List.Basic
import Mathlib.Data.List.TFAE
import UploadMessages.Proofs.Timestamp.Forms

/-! # What the two kinds of timestamp have in common

No text is a timestamp of both kinds. But a head can be completed to either kind, and as
long as the fraction is zero and the offset none, the instant is that of the head. Whatever
the head is: nothing that completes one text to a timestamp is part of a head itself.
-/

namespace UploadMessages

theorem Digit.char_ne_point (d : Digit 10) : d.char ≠ '.' := by
  revert d; decide

theorem Digit.char_ne_z (d : Digit 10) : d.char ≠ 'Z' := by
  revert d; decide

theorem Numeral.point_notMem_toChars (ds : Numeral 10) : '.' ∉ ds.toChars := by
  intro mem
  obtain ⟨d, -, same⟩ := List.mem_map.mp mem
  exact d.char_ne_point same

theorem Numeral.toChars_injective {ds es : Numeral 10} (h : ds.toChars = es.toChars) : ds = es := by
  have same := ofChars?_toChars_decimal ds
  rw [h, ofChars?_toChars_decimal es] at same
  exact (Option.some.inj same).symm

theorem CivilTime.point_notMem_toChars (t : CivilTime) : '.' ∉ t.toChars := by
  simp [toChars, Numeral.point_notMem_toChars]

theorem CivilTime.instant_addMillis_zero (t : CivilTime) : t.instant.addMillis 0 = t.instant := by
  rw [instant_addMillis]
  unfold instant
  split <;> simp_all [Instant.nanosPerSecond]

namespace Timestamp

variable {h : String} {i : Instant}

/-- A fraction is found again at the only point of a timestamp. -/
theorem utc_append_fraction {digits : String} {ds : Numeral 10}
    (written : digits.toList = ds.toChars) (nonempty : ds ≠ []) (few : ds.length ≤ 9) :
    utc (h ++ "." ++ digits ++ "Z") = .ok i ↔
      ∃ t, Parts h t [] ∧ i = t.instant.addMillis ds.value := by
  have spelled : (h ++ "." ++ digits ++ "Z").toList = h.toList ++ '.' :: (ds.toChars ++ ['Z']) := by
    simp [written]
  rw [utc_eq_ok_iff]
  constructor
  · rintro ⟨t, tail, ms, parts, form, rfl⟩
    cases form with
    | @intro es =>
      have noPoint : '.' ∉ es.toChars ++ ['Z'] := by
        simp [Numeral.point_notMem_toChars]
      have same : t.toChars ++ '.' :: (es.toChars ++ ['Z']) =
          h.toList ++ '.' :: (ds.toChars ++ ['Z']) := parts.written.symm.trans spelled
      obtain ⟨head, -, tail⟩ :=
        (List.append_cons_inj_of_notMem t.point_notMem_toChars noPoint).mp same
      obtain rfl := Numeral.toChars_injective (List.append_cancel_right tail)
      exact ⟨t, ⟨parts.year, parts.occurs, by simp [head]⟩, rfl⟩
  · rintro ⟨t, parts, rfl⟩
    refine ⟨t, _, _, ⟨parts.year, parts.occurs, ?_⟩, .intro nonempty few, rfl⟩
    rw [spelled, parts.written, List.append_nil, List.cons_append]

theorem clock_eq_concat (sign : Char) (hours minutes : Nat) : ∃ before, before.length = 5 ∧
    clock sign hours minutes = before ++ [(Digit.last 10 minutes).char] := by
  refine ⟨sign :: (Numeral.padded 10 2 hours).toChars ++
    ':' :: (Numeral.padded 10 1 (minutes / 10)).toChars, ?_, ?_⟩
  · simp [Numeral.toChars, Numeral.length_padded]
  · simp [clock, Numeral.padded]

/-- The last character of an offset tells how long it is. -/
theorem OffsetForm.length_eq {seconds : Int} {tail : List Char} (form : OffsetForm seconds tail) :
    tail.length = if tail.getLast? = some 'Z' then 1 else 6 := by
  have long (sign : Char) (hours minutes : Nat) : (clock sign hours minutes).length =
      if (clock sign hours minutes).getLast? = some 'Z' then 1 else 6 := by
    obtain ⟨before, length, split⟩ := clock_eq_concat sign hours minutes
    simp [split, length, Digit.char_ne_z]
  cases form with
  | zero => rfl
  | ahead => exact long _ _ _
  | behind => exact long _ _ _

theorem OffsetForm.ne_nil {seconds : Int} {tail : List Char} (form : OffsetForm seconds tail) :
    tail ≠ [] := by
  cases form <;> simp [clock]

theorem zoned_append_offset {tail : String} {seconds : Int}
    (form : OffsetForm seconds tail.toList) : zoned (h ++ tail) = .ok i ↔
      ∃ t, Parts h t [] ∧ i = t.instant.subSeconds seconds := by
  rw [zoned_eq_ok_iff]
  constructor
  · rintro ⟨t, tail', seconds', parts, form', rfl⟩
    have same : h.toList ++ tail.toList = t.toChars ++ tail' :=
      String.toList_append.symm.trans parts.written
    have last : tail.toList.getLast? = tail'.getLast? := by
      have whole := congrArg List.getLast? same
      rwa [List.getLast?_append_of_ne_nil _ form.ne_nil,
        List.getLast?_append_of_ne_nil _ form'.ne_nil] at whole
    have length : tail.toList.length = tail'.length := by
      rw [form.length_eq, form'.length_eq, last]
    obtain ⟨head, rfl⟩ := List.append_inj' same length
    cases (offset_eq_ok_iff.mpr form').symm.trans (offset_eq_ok_iff.mpr form)
    exact ⟨t, ⟨parts.year, parts.occurs, by simp [head]⟩, rfl⟩
  · rintro ⟨t, parts, rfl⟩
    refine ⟨t, _, _, ⟨parts.year, parts.occurs, ?_⟩, form, rfl⟩
    rw [String.toList_append, parts.written, List.append_nil]

/-- The heads that stand for an instant. -/
theorem zoned_append_z : zoned (h ++ "Z") = .ok i ↔ ∃ t, Parts h t [] ∧ i = t.instant := by
  simp only [@zoned_append_offset h i "Z" 0 .zero, Instant.subSeconds_zero]

theorem utc_append_zero : utc (h ++ ".0Z") = .ok i ↔ ∃ t, Parts h t [] ∧ i = t.instant := by
  have spelled : h ++ ".0Z" = h ++ "." ++ "0" ++ "Z" := by
    rw [String.append_assoc, String.append_assoc]
    rfl
  have zero : "0".toList = Numeral.toChars [(0 : Digit 10)] := rfl
  have value : Numeral.value [(0 : Digit 10)] = 0 := rfl
  rw [spelled, utc_append_fraction zero (by simp) (by simp)]
  simp only [value, CivilTime.instant_addMillis_zero]

theorem OffsetForm.no_fraction {ms : Nat} {seconds : Int} {tail : List Char}
    (form : OffsetForm seconds tail) : ¬FractionForm ms tail := by
  rintro ⟨-, -⟩
  cases form

/-- No text is a timestamp of both kinds. -/
theorem not_utc_and_zoned {text : String} {j : Instant} (fractional : utc text = .ok i) :
    zoned text ≠ .ok j := by
  intro ahead
  obtain ⟨t, tail, ms, parts, fraction, -⟩ := utc_eq_ok_iff.mp fractional
  obtain ⟨t', tail', seconds, parts', offset, -⟩ := zoned_eq_ok_iff.mp ahead
  have same : t.toChars ++ tail = t'.toChars ++ tail' := parts.written.symm.trans parts'.written
  obtain ⟨-, rfl⟩ := List.append_inj same (t.length_toChars.trans t'.length_toChars.symm)
  exact offset.no_fraction fraction

/-- A head with a zero fraction and the same head without an offset stand for one instant or for
none, however the offset is written. If the head is no leap second, a fraction moves the instant by
as many milliseconds as its digits say. No text is a timestamp of both kinds. -/
theorem kinds_agree_and_are_disjoint :
    (∀ (h : String) (i : Instant), [utc (h ++ ".0Z") = .ok i, zoned (h ++ "Z") = .ok i,
      zoned (h ++ "+00:00") = .ok i, zoned (h ++ "-00:00") = .ok i].TFAE) ∧
    (∀ (h digits : String) (i : Instant) (second : Nat), zoned (h ++ "Z") = .ok i →
      second? h = some second → second < 60 → 1 ≤ digits.length → digits.length ≤ 9 →
      (∀ c ∈ digits.toList, c.isDigit = true) →
      ∃ j, utc (h ++ "." ++ digits ++ "Z") = .ok j ∧
        j.millis = i.millis + Nat.ofDigitChars 10 digits.toList 0) ∧
    ∀ (text : String) (i j : Instant), ¬(utc text = .ok i ∧ zoned text = .ok j) := by
  refine ⟨fun h i => ?_, fun h digits i second whole place ordinary long short areDigits => ?_,
    fun text i j ⟨fractional, ahead⟩ => not_utc_and_zoned fractional ahead⟩
  · have plus : OffsetForm 0 "+00:00".toList := @OffsetForm.ahead 0 0 (by simp) (by simp)
    have minus : OffsetForm 0 "-00:00".toList := @OffsetForm.behind 0 0 (by simp) (by simp)
    apply List.tfae_of_forall (∃ t, Parts h t [] ∧ i = t.instant)
    simp [utc_append_zero, zoned_append_z, zoned_append_offset plus, zoned_append_offset minus,
      Instant.subSeconds_zero]
  · obtain ⟨t, parts, rfl⟩ := zoned_append_z.mp whole
    rw [parts.second?_eq] at place
    cases place
    obtain ⟨ds, written⟩ := Numeral.exists_eq_toChars areDigits
    have length : ds.length = digits.length := by
      rw [← String.length_toList, written, Numeral.toChars, List.length_map]
    have nonempty : ds ≠ [] := List.length_pos_iff.mp (by omega)
    refine ⟨_, (utc_append_fraction written nonempty (by omega)).mpr ⟨t, parts, rfl⟩, ?_⟩
    have noLeap : ¬t.instant.InLeapSecond := by
      simp [Instant.InLeapSecond, CivilTime.instant, Nat.ne_of_lt ordinary, Instant.nanosPerSecond]
    rw [Instant.millis_addMillis noLeap, written, Numeral.value_eq_ofDigitChars]

/-- The digits of a fraction count milliseconds, seven of them too. -/
theorem kinds_agree_and_are_disjoint_sevenDigits :
    ∃ j, utc ("2016-06-01T21:22:43" ++ "." ++ "7996883" ++ "Z") = .ok j ∧
      j.millis = 1464824159883 := by
  have whole : zoned ("2016-06-01T21:22:43" ++ "Z") = .ok ⟨1464816163, 0⟩ := by decide +kernel
  have place : second? "2016-06-01T21:22:43" = some 43 := by decide +kernel
  exact kinds_agree_and_are_disjoint.2.1 "2016-06-01T21:22:43" "7996883" _ 43 whole place
    (by decide) (by decide) (by decide) (List.all_eq_true.mp (by decide))

end Timestamp

end UploadMessages
