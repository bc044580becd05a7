import UploadMessages.Proofs.Timestamp.Agreement

/-! # Fractions in their order

Timestamps with one head come in the order of the numbers that their fractions write. The
milliseconds may be carried into the seconds, over the end of a day or out of a leap second:
none of these seams turns the order around or lets two numbers meet.
-/

namespace UploadMessages

namespace CivilTime

variable (t : CivilTime) {m n : Nat}

/-- What leaves a leap second reaches the next second at least, and what stays in it does not. -/
theorem addMillis_le_iff : t.instant.addMillis m ≤ t.instant.addMillis n ↔ m ≤ n := by
  rw [instant_addMillis, instant_addMillis, Instant.le_def]
  split <;> split <;> dsimp only <;> omega

theorem addMillis_eq_iff : t.instant.addMillis m = t.instant.addMillis n ↔ m = n := by
  constructor
  · intro same
    have upward := t.addMillis_le_iff.mp (Std.le_of_eq same)
    have downward := t.addMillis_le_iff.mp (Std.le_of_eq same.symm)
    exact Nat.le_antisymm upward downward
  · rintro rfl
    rfl

end CivilTime

namespace Timestamp

structure IsFraction (digits : String) : Prop where
  nonempty : 1 ≤ digits.length
  few : digits.length ≤ 9
  areDigits : ∀ c ∈ digits.toList, c.isDigit = true

def numberOf (digits : String) : Nat := Nat.ofDigitChars 10 digits.toList 0

variable {h d e digits : String} {i j : Instant}

theorem utc_of_isFraction (fraction : IsFraction digits) :
    utc (h ++ "." ++ digits ++ "Z") = .ok i ↔
      ∃ t, Parts h t [] ∧ i = t.instant.addMillis (numberOf digits) := by
  obtain ⟨ds, written⟩ := Numeral.exists_eq_toChars fraction.areDigits
  have length : ds.length = digits.length := by
    rw [← String.length_toList, written, Numeral.toChars, List.length_map]
  have value : ds.value = numberOf digits := by
    rw [numberOf, written, Numeral.value_eq_ofDigitChars]
  rw [← value]
  exact utc_append_fraction written (List.length_pos_iff.mp (length ▸ fraction.nonempty))
    (length ▸ fraction.few)

/-- A head names one time. -/
theorem Parts.time_unique {t t' : CivilTime} (parts : Parts h t []) (parts' : Parts h t' []) :
    t = t' := by
  have read := head_eq_ok_iff.mpr parts
  rw [head_eq_ok_iff.mpr parts'] at read
  cases read
  rfl

theorem numberOf_leading_zeros {count : Nat}
    (zeros : e.toList = List.replicate count '0' ++ d.toList) : numberOf e = numberOf d := by
  rw [numberOf, zeros, Nat.ofDigitChars_append, Nat.ofDigitChars_replicate_zero, Nat.mul_zero,
    numberOf]

theorem numberOf_trailing_zeros {count : Nat}
    (zeros : e.toList = d.toList ++ List.replicate count '0') :
    numberOf e = 10 ^ count * numberOf d := by
  rw [numberOf, zeros, Nat.ofDigitChars_append, Nat.ofDigitChars_replicate_zero, numberOf]

theorem numberOf_eq_of_trailing_zeros_iff {count : Nat} (positive : 0 < count)
    (zeros : e.toList = d.toList ++ List.replicate count '0') :
    numberOf d = numberOf e ↔ numberOf d = 0 := by
  have tenfold : 10 ≤ 10 ^ count := Nat.le_self_pow (Nat.ne_of_gt positive) 10
  rw [numberOf_trailing_zeros zeros]
  constructor
  · intro same
    have larger := Nat.mul_le_mul_right (numberOf d) tenfold
    omega
  · intro zero
    rw [zero, Nat.mul_zero]

/-- Of two timestamps with one head the later is the one whose fraction writes the larger number.
They are one instant just if the numbers are equal, so zeros in front of a fraction never matter,
and zeros behind it always do unless it writes zero. -/
theorem fractions_order_instants (fraction : IsFraction d) (fraction' : IsFraction e)
    (read : utc (h ++ "." ++ d ++ "Z") = .ok i) (read' : utc (h ++ "." ++ e ++ "Z") = .ok j) :
    (i ≤ j ↔ numberOf d ≤ numberOf e) ∧ (i = j ↔ numberOf d = numberOf e) ∧
      (∀ count, e.toList = List.replicate count '0' ++ d.toList → i = j) ∧
      ∀ count, 0 < count → e.toList = d.toList ++ List.replicate count '0' →
        (i = j ↔ numberOf d = 0) := by
  obtain ⟨t, parts, rfl⟩ := (utc_of_isFraction fraction).mp read
  obtain ⟨t', parts', rfl⟩ := (utc_of_isFraction fraction').mp read'
  obtain rfl := parts.time_unique parts'
  refine ⟨t.addMillis_le_iff, t.addMillis_eq_iff, ?_, ?_⟩
  · intro count zeros
    rw [t.addMillis_eq_iff, numberOf_leading_zeros zeros]
  · intro count positive zeros
    rw [t.addMillis_eq_iff, numberOf_eq_of_trailing_zeros_iff positive zeros]

/-- A fraction that stays in a leap second is earlier than the next one, which leaves it. -/
theorem fractions_order_instants_leapSecond :
    utc ("2016-12-31T23:59:60" ++ "." ++ "999" ++ "Z") = .ok ⟨1483228799, 1999000000⟩ ∧
      utc ("2016-12-31T23:59:60" ++ "." ++ "1000" ++ "Z") = .ok ⟨1483228800, 0⟩ ∧
      (⟨1483228799, 1999000000⟩ : Instant) ≤ ⟨1483228800, 0⟩ := by
  have inside : utc ("2016-12-31T23:59:60" ++ "." ++ "999" ++ "Z") =
      .ok ⟨1483228799, 1999000000⟩ := by decide +kernel
  have outside : utc ("2016-12-31T23:59:60" ++ "." ++ "1000" ++ "Z") = .ok ⟨1483228800, 0⟩ := by
    decide +kernel
  have fraction : IsFraction "999" := ⟨by decide, by decide, List.all_eq_true.mp (by decide)⟩
  have fraction' : IsFraction "1000" := ⟨by decide, by decide, List.all_eq_true.mp (by decide)⟩
  exact ⟨inside, outside,
    (fractions_order_instants fraction fraction' inside outside).1.mpr (by decide)⟩

end Timestamp

end UploadMessages
