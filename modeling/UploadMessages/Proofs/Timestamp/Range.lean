import UploadMessages.Proofs.Timestamp.Forms

/-! # The range of timestamps

The years of timestamps have four digits, their fractions nine digits at most and their
offsets less than a day. So each instant that is read lies between two that are known, and
no text is rejected because a number is too large, but for an offset with too many hours or
minutes.
-/

namespace UploadMessages.Timestamp

variable {text : String} {i : Instant} {fault : Fault}

structure Bounded (text : String) (i : Instant) : Prop where
  least : -62167305540 ≤ i.seconds
  most : i.seconds ≤ 253403300798
  wholeMillis : 1000000 ∣ i.nanos
  nanos_lt : i.nanos < 2000000000
  leap : 1000000000 ≤ i.nanos → second? text = some 60
  least_millis : -(Signed.bound 64 : Int) ≤ i.millis
  most_millis : i.millis < Signed.bound 64

/-- A fraction leads less than 1000000 seconds on, and an offset less than a day either way. -/
theorem Parts.bounded {t : CivilTime} {tail : List Char} (h : Parts text t tail) {seconds : Int}
    {ms : Nat} (behind : t.instant.seconds - 86340 ≤ seconds)
    (ahead : seconds ≤ t.instant.seconds + 999999) (second : ms < 1000 ∨ t.second = 60)
    (short : ms < 2000) : Bounded text ⟨seconds, ms * 1000000⟩ := by
  obtain ⟨least, most⟩ := CivilTime.seconds_mem h.occurs h.year
  have bound : (Signed.bound 64 : Int) = 9223372036854775808 := rfl
  have millis : Instant.millis ⟨seconds, ms * 1000000⟩ = seconds * 1000 + ms := by
    rw [Instant.millis, Instant.nanosPerMilli, Nat.mul_div_cancel ms (by decide)]
  constructor
  · dsimp only
    omega
  · dsimp only
    omega
  · exact Nat.dvd_mul_left 1000000 ms
  · dsimp only
    omega
  · intro leap
    rw [h.second?_eq]
    exact congrArg some (second.resolve_left (by dsimp only at leap; omega))
  · rw [millis, bound]
    omega
  · rw [millis, bound]
    omega

theorem bounded_utc (h : utc text = .ok i) : Bounded text i := by
  obtain ⟨t, tail, ms, parts, form, rfl⟩ := utc_eq_ok_iff.mp h
  have few := form.lt
  rw [CivilTime.instant_addMillis]
  split
  · rename_i leap
    have nanos : 1000000000 + ms * 1000000 = (1000 + ms) * 1000000 := by omega
    rw [nanos]
    exact parts.bounded (by omega) (by omega) (.inr leap.1) (by omega)
  · exact parts.bounded (by omega) (by omega) (.inl (by omega)) (by omega)

theorem bounded_zoned (h : zoned text = .ok i) : Bounded text i := by
  obtain ⟨t, tail, seconds, parts, form, rfl⟩ := zoned_eq_ok_iff.mp h
  obtain ⟨least, most⟩ := form.bounds
  by_cases leap : t.second = 60
  · have nanos : t.instant.nanos = 1000 * 1000000 := if_pos leap
    rw [Instant.subSeconds, nanos]
    exact parts.bounded (by omega) (by omega) (.inr leap) (by omega)
  · have nanos : t.instant.nanos = 0 * 1000000 := if_neg leap
    rw [Instant.subSeconds, nanos]
    exact parts.bounded (by omega) (by omega) (.inl (by omega)) (by omega)

/-- The faults of a text that has not the form of a timestamp. All others are of numbers that are
too large. -/
def Fault.OfForm : Fault → Prop
  | .fractionNumber | .offsetRange | .instantRange => False
  | _ => True

theorem head_faults {cs : List Char} (h : head cs = .error fault) : fault.OfForm := by
  unfold head at h
  split at h
  · cases h
    trivial
  split at h
  · cases h
    trivial
  split at h
  · cases h
    trivial
  split at h
  · cases h
  · cases h
    trivial

theorem fraction_faults {tail : List Char} (h : fraction tail = .error fault) : fault.OfForm := by
  rcases fraction_cases tail with ⟨ms, form⟩ | refused | refused
  · cases (fraction_eq_ok_iff.mpr form).symm.trans h
  · cases refused.symm.trans h
    trivial
  · cases refused.symm.trans h
    trivial

/-- An offset is out of range just for its hours or its minutes. -/
theorem offset_faults {tail : List Char} (h : offset tail = .error fault) : fault.OfForm ∨
    fault = .offsetRange ∧ ∃ sign hours minutes, tail = clock sign hours minutes ∧
      hours < 100 ∧ minutes < 100 ∧ (23 < hours ∨ 59 < minutes) := by
  rcases offset_cases tail with rfl | ⟨sign, hours, minutes, fewHours, fewMinutes, rfl⟩ | other
  · cases h
  · rw [offset_clock sign fewHours fewMinutes] at h
    split at h
    · cases h
      exact .inl trivial
    split at h
    · cases h
      exact .inl trivial
    split at h
    · rename_i far
      cases h
      exact .inr ⟨rfl, sign, hours, minutes, rfl, fewHours, fewMinutes, far⟩
    · cases h
  · cases other.symm.trans h
    exact .inl trivial

/-- No sum and no number is too large for a timestamp but the hours and minutes of an offset. -/
theorem rejected_faults (h : utc text = .error fault ∨ zoned text = .error fault) : fault.OfForm ∨
    fault = .offsetRange ∧ ∃ t sign hours minutes, Parts text t (clock sign hours minutes) ∧
      hours < 100 ∧ minutes < 100 ∧ (23 < hours ∨ 59 < minutes) := by
  rcases h with h | h
  · rcases utc_eq_error_iff.mp h with h | ⟨t, tail, -, h⟩
    · exact .inl (head_faults h)
    · exact .inl (fraction_faults h)
  · rcases zoned_eq_error_iff.mp h with h | ⟨t, tail, parts, h⟩
    · exact .inl (head_faults h)
    · rcases offset_faults h with form | ⟨range, sign, hours, minutes, rfl, far⟩
      · exact .inl form
      · exact .inr ⟨range, t, sign, hours, minutes, parts, far⟩

/-- Whatever is read lies in a known range, which is as small as can be; so do the fractions and
the offsets. Whatever is rejected is not rejected for a number or a sum that is too large, but
for the hours or the minutes of an offset. -/
theorem timestamps_stay_in_range :
    (∀ text i, utc text = .ok i ∨ zoned text = .ok i → Bounded text i) ∧
    (∃ text i, zoned text = .ok i ∧ i.seconds = -62167305540) ∧
    (∃ text i, utc text = .ok i ∧ i.seconds = 253403300798) ∧
    (∀ text i, utc text = .ok i → ∃ t tail ms, Parts text t tail ∧ FractionForm ms tail ∧
      ms < Signed.bound 64) ∧
    (∀ text i, zoned text = .ok i → ∃ t tail seconds, Parts text t tail ∧
      OffsetForm seconds tail ∧ -86400 < seconds ∧ seconds < 86400) ∧
    ∀ text fault, utc text = .error fault ∨ zoned text = .error fault →
      fault.message ≠ "instant out of range" ∧ fault.message ≠ "fraction is not a number" ∧
      (fault.message = "offset out of range" → ∃ t sign hours minutes,
        Parts text t (clock sign hours minutes) ∧ hours < 100 ∧ minutes < 100 ∧
          (23 < hours ∨ 59 < minutes)) := by
  refine ⟨?_, ?_, ?_, ?_, ?_, ?_⟩
  · rintro text i (h | h)
    · exact bounded_utc h
    · exact bounded_zoned h
  · exact ⟨"0000-01-01T00:00:00+23:59", ⟨-62167305540, 0⟩, by decide +kernel, rfl⟩
  · exact ⟨"9999-12-31T23:59:59.999999999Z", ⟨253403300798, 999000000⟩, by decide +kernel, rfl⟩
  · intro text i h
    obtain ⟨t, tail, ms, parts, form, -⟩ := utc_eq_ok_iff.mp h
    exact ⟨t, tail, ms, parts, form, Nat.lt_trans form.lt (by decide)⟩
  · intro text i h
    obtain ⟨t, tail, seconds, parts, form, -⟩ := zoned_eq_ok_iff.mp h
    have bounds := form.bounds
    exact ⟨t, tail, seconds, parts, form, by omega, by omega⟩
  · intro text fault h
    have named {fault' : Fault} (same : fault.message = fault'.message) : fault = fault' :=
      Fault.message_injective same
    rcases rejected_faults h with form | ⟨rfl, far⟩
    · refine ⟨fun same => ?_, fun same => ?_, fun same => ?_⟩
      · rwa [@named .instantRange same] at form
      · rwa [@named .fractionNumber same] at form
      · rw [@named .offsetRange same] at form
        exact form.elim
    · exact ⟨by decide, by decide, fun _ => far⟩

/-- A leap second has room for the milliseconds of a fraction below 1000. -/
theorem timestamps_stay_in_range_leapSecond :
    Bounded "2016-12-31T23:59:60.500Z" ⟨1483228799, 1500000000⟩ := by
  have read : utc "2016-12-31T23:59:60.500Z" = .ok ⟨1483228799, 1500000000⟩ := by decide +kernel
  exact timestamps_stay_in_range.1 _ _ (.inl read)

end UploadMessages.Timestamp
