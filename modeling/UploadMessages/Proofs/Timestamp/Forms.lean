import UploadMessages.Proofs.Timestamp.Heads

/-! # The forms of timestamps

A timestamp is a head with a tail. The tails are described here apart from their readers:
a fraction has one to nine digits between a point and a `Z`, an offset is a `Z` or a sign
with hours and minutes. No number that is written so is too large for what is made of it,
hence the readers take exactly these texts, and the instant follows from their parts.
-/

namespace UploadMessages.Timestamp

/-- The tails with a fraction of so many milliseconds. -/
inductive FractionForm : Nat → List Char → Prop
  | intro {digits : Numeral 10} (nonempty : digits ≠ []) (few : digits.length ≤ 9) :
    FractionForm digits.value ('.' :: digits.toChars ++ ['Z'])

theorem FractionForm.lt {ms : Nat} {tail : List Char} (h : FractionForm ms tail) :
    ms < 1000000000 := by
  obtain ⟨-, few⟩ := h
  exact Numeral.value_lt_of_length_le few

/-- What stands between the point and the `Z` of a tail decides whether it is a fraction. -/
theorem fraction_between (mid : List Char) : fraction ('.' :: mid ++ ['Z']) =
    if 1 ≤ mid.length ∧ mid.length ≤ 9 then
      (Numeral.decimal? mid).elim (.error .fractionDigits) fun n =>
        if n < Signed.bound 64 then .ok n else .error .fractionNumber
    else .error .fractionDigits := by
  simp only [List.cons_append, fraction, List.getLast?_concat, List.dropLast_concat, if_true]
  cases Numeral.decimal? mid <;> rfl

theorem fraction_of_not_between {tail : List Char} (h : ∀ mid, tail ≠ '.' :: mid ++ ['Z']) :
    fraction tail = .error .notAFraction := by
  unfold fraction
  split
  · rename_i rest
    split
    · rename_i last
      obtain ⟨mid, rfl⟩ := List.getLast?_eq_some_iff.mp last
      exact absurd rfl (h mid)
    · rfl
  · rfl

theorem fraction_of_digits {digits : Numeral 10} (nonempty : digits ≠ [])
    (few : digits.length ≤ 9) :
    fraction ('.' :: digits.toChars ++ ['Z']) = .ok digits.value := by
  have length : digits.toChars.length = digits.length := List.length_map _
  have read : Numeral.decimal? digits.toChars = some digits.value :=
    Numeral.decimal?_eq_some_iff.mpr ⟨digits, rfl, rfl⟩
  have fits : digits.value < Signed.bound 64 :=
    Nat.lt_trans (FractionForm.intro nonempty few).lt (by decide)
  rw [fraction_between, length, if_pos ⟨List.length_pos_iff.mpr nonempty, few⟩, read]
  exact if_pos fits

/-- Between a point and a `Z` there can be no other fault than that of the digits. -/
theorem fraction_of_not_digits {mid : List Char}
    (h : ∀ digits : Numeral 10, mid = digits.toChars → digits ≠ [] → 9 < digits.length) :
    fraction ('.' :: mid ++ ['Z']) = .error .fractionDigits := by
  rw [fraction_between]
  split
  · rename_i length
    cases read : Numeral.decimal? mid with
    | none => rfl
    | some n =>
      obtain ⟨digits, rfl, rfl⟩ := Numeral.decimal?_eq_some_iff.mp read
      rw [Numeral.toChars, List.length_map] at length
      have many := h digits rfl (List.length_pos_iff.mp length.1)
      exact absurd length.2 (Nat.not_le.mpr many)
  · rfl

theorem fraction_cases (tail : List Char) : (∃ ms, FractionForm ms tail) ∨
    fraction tail = .error .fractionDigits ∨ fraction tail = .error .notAFraction := by
  by_cases between : ∃ mid, tail = '.' :: mid ++ ['Z']
  · obtain ⟨mid, rfl⟩ := between
    by_cases form : ∃ digits : Numeral 10, mid = digits.toChars ∧ digits ≠ [] ∧ digits.length ≤ 9
    · obtain ⟨digits, rfl, nonempty, few⟩ := form
      exact .inl ⟨digits.value, .intro nonempty few⟩
    · refine .inr (.inl (fraction_of_not_digits fun digits same nonempty => ?_))
      exact Nat.not_le.mp fun few => form ⟨digits, same, nonempty, few⟩
  · exact .inr (.inr (fraction_of_not_between (not_exists.mp between)))

theorem fraction_eq_ok_iff {tail : List Char} {ms : Nat} :
    fraction tail = .ok ms ↔ FractionForm ms tail := by
  have reads {ms : Nat} (form : FractionForm ms tail) : fraction tail = .ok ms := by
    obtain ⟨nonempty, few⟩ := form
    exact fraction_of_digits nonempty few
  refine ⟨fun read => ?_, reads⟩
  rcases fraction_cases tail with ⟨ms', form⟩ | refused | refused
  · cases (reads form).symm.trans read
    exact form
  · cases refused.symm.trans read
  · cases refused.symm.trans read

def clock (sign : Char) (hours minutes : Nat) : List Char :=
  sign :: (Numeral.padded 10 2 hours).toChars ++ ':' :: (Numeral.padded 10 2 minutes).toChars

/-- The tails that put the clock so many seconds ahead of UTC. -/
inductive OffsetForm : Int → List Char → Prop
  | zero : OffsetForm 0 ['Z']
  | ahead {hours minutes : Nat} (h : hours ≤ 23) (m : minutes ≤ 59) :
    OffsetForm (hours * 3600 + minutes * 60 : Nat) (clock '+' hours minutes)
  | behind {hours minutes : Nat} (h : hours ≤ 23) (m : minutes ≤ 59) :
    OffsetForm (-(hours * 3600 + minutes * 60 : Nat)) (clock '-' hours minutes)

/-- No offset is more than 23 hours and 59 minutes. -/
theorem OffsetForm.bounds {seconds : Int} {tail : List Char} (h : OffsetForm seconds tail) :
    -86340 ≤ seconds ∧ seconds ≤ 86340 := by
  cases h with
  | zero => decide
  | ahead => omega
  | behind => omega

theorem ahead_of_lt {seconds : Int} (h : -86400 < seconds ∧ seconds < 86400) :
    ahead seconds = .ok seconds := if_pos h

/-- What an offset of the right shape comes to; the minutes are never too many for a day. -/
theorem offset_clock (sign : Char) {hours minutes : Nat} (h : hours < 100) (m : minutes < 100) :
    offset (clock sign hours minutes) =
      if sign.utf8Size ≠ 1 then .error .notAnOffset
      else if sign ≠ '+' ∧ sign ≠ '-' then .error .offsetSign
      else if 23 < hours ∨ 59 < minutes then .error .offsetRange
      else .ok (if sign = '-' then -(hours * 3600 + minutes * 60 : Nat)
        else (hours * 3600 + minutes * 60 : Nat)) := by
  obtain ⟨h₁, h₂, writtenHours, readHours⟩ := CivilTime.exists_two_digits h
  obtain ⟨m₁, m₂, writtenMinutes, readMinutes⟩ := CivilTime.exists_two_digits m
  simp only [clock, writtenHours, writtenMinutes, List.cons_append, List.nil_append, offset,
    readHours, readMinutes]
  split
  · rfl
  split
  · rfl
  split
  · rfl
  · apply ahead_of_lt
    split <;> omega

theorem offset_cases (tail : List Char) : tail = ['Z'] ∨
    (∃ sign hours minutes, hours < 100 ∧ minutes < 100 ∧ tail = clock sign hours minutes) ∨
    offset tail = .error .notAnOffset := by
  unfold offset
  split
  · exact .inl rfl
  · rename_i sign h₁ h₂ m₁ m₂
    split
    · rename_i hours minutes readHours readMinutes
      obtain ⟨h, writtenHours⟩ := Numeral.eq_padded_of_decimal? 2 rfl readHours
      obtain ⟨m, writtenMinutes⟩ := Numeral.eq_padded_of_decimal? 2 rfl readMinutes
      refine .inr (.inl ⟨sign, hours, minutes, h, m, ?_⟩)
      rw [clock, ← writtenHours, ← writtenMinutes]
      rfl
    · exact .inr (.inr rfl)
  · exact .inr (.inr rfl)

theorem offset_eq_ok_iff {tail : List Char} {seconds : Int} :
    offset tail = .ok seconds ↔ OffsetForm seconds tail := by
  constructor
  · intro read
    rcases offset_cases tail with rfl | ⟨sign, hours, minutes, h, m, rfl⟩ | refused
    · cases read
      exact .zero
    · rw [offset_clock sign h m] at read
      split at read
      · cases read
      split at read
      · cases read
      split at read
      · cases read
      · rename_i signed inRange
        have hours : hours ≤ 23 := by omega
        have minutes : minutes ≤ 59 := by omega
        by_cases behind : sign = '-'
        · subst behind
          cases read
          exact .behind hours minutes
        · have plus : sign = '+' := Decidable.not_not.mp fun other => signed ⟨other, behind⟩
          subst plus
          cases read
          exact .ahead hours minutes
    · rw [refused] at read
      cases read
  · intro form
    cases form with
    | zero => rfl
    | ahead h m =>
      rw [offset_clock '+' (by omega) (by omega), if_neg (by decide), if_neg (by decide),
        if_neg (by omega)]
      rfl
    | behind h m =>
      rw [offset_clock '-' (by omega) (by omega), if_neg (by decide), if_neg (by decide),
        if_neg (by omega)]
      rfl

namespace Parts

variable {text : String} {t : CivilTime} {tail : List Char}

theorem addMillis_inRange (h : Parts text t tail) {ms : Nat} (few : ms < 1000000000) :
    (t.instant.addMillis ms).InRange := by
  obtain ⟨least, most⟩ := CivilTime.seconds_mem h.occurs h.year
  rw [CivilTime.instant_addMillis]
  unfold Instant.InRange Instant.firstSecond Instant.lastSecond
  split <;> dsimp only <;> omega

theorem subSeconds_inRange (h : Parts text t tail) {seconds : Int}
    (bounds : -86340 ≤ seconds ∧ seconds ≤ 86340) : (t.instant.subSeconds seconds).InRange := by
  obtain ⟨least, most⟩ := CivilTime.seconds_mem h.occurs h.year
  unfold Instant.InRange Instant.firstSecond Instant.lastSecond Instant.subSeconds
  dsimp only
  omega

end Parts

section

variable {α β : Type} {x : Except Fault α} {f : α → Except Fault β}

theorem bind_eq_ok_iff {b : β} : x >>= f = .ok b ↔ ∃ a, x = .ok a ∧ f a = .ok b := by
  cases x with
  | error fault => exact ⟨fun h => (by cases h), fun ⟨_, h, _⟩ => (by cases h)⟩
  | ok a => exact ⟨fun h => ⟨a, rfl, h⟩, fun ⟨_, h, h'⟩ => (by cases h; exact h')⟩

theorem bind_eq_error_iff {fault : Fault} :
    x >>= f = .error fault ↔ x = .error fault ∨ ∃ a, x = .ok a ∧ f a = .error fault := by
  cases x with
  | error fault' =>
    refine ⟨fun h => .inl (by cases h; rfl), ?_⟩
    rintro (h | ⟨a, h, -⟩)
    · cases h
      rfl
    · cases h
  | ok a =>
    refine ⟨fun h => .inr ⟨a, rfl, h⟩, ?_⟩
    rintro (h | ⟨a', h, h'⟩)
    · cases h
    · cases h
      exact h'

end

variable {text : String} {i : Instant} {fault : Fault}

/-- A text is read with a fraction just if it has the parts of such a timestamp. -/
theorem utc_eq_ok_iff : utc text = .ok i ↔
    ∃ t tail ms, Parts text t tail ∧ FractionForm ms tail ∧ i = t.instant.addMillis ms := by
  simp only [utc, bind_eq_ok_iff, Prod.exists, head_eq_ok_iff, fraction_eq_ok_iff,
    reached_eq_ok_iff]
  constructor
  · rintro ⟨t, tail, parts, ms, form, -, rfl⟩
    exact ⟨t, tail, ms, parts, form, rfl⟩
  · rintro ⟨t, tail, ms, parts, form, rfl⟩
    exact ⟨t, tail, parts, ms, form, parts.addMillis_inRange form.lt, rfl⟩

/-- A text is read with an offset just if it has the parts of such a timestamp. -/
theorem zoned_eq_ok_iff : zoned text = .ok i ↔ ∃ t tail seconds,
    Parts text t tail ∧ OffsetForm seconds tail ∧ i = t.instant.subSeconds seconds := by
  simp only [zoned, bind_eq_ok_iff, Prod.exists, head_eq_ok_iff, offset_eq_ok_iff,
    reached_eq_ok_iff]
  constructor
  · rintro ⟨t, tail, parts, seconds, form, -, rfl⟩
    exact ⟨t, tail, seconds, parts, form, rfl⟩
  · rintro ⟨t, tail, seconds, parts, form, rfl⟩
    exact ⟨t, tail, parts, seconds, form, parts.subSeconds_inRange form.bounds, rfl⟩

theorem reached_ne_error (inRange : i.InRange) : reached i ≠ .error fault := by
  rw [reached_eq_ok_iff.mpr ⟨inRange, rfl⟩]
  simp

/-- The instant is always reached, so head and fraction have all the faults. -/
theorem utc_eq_error_iff : utc text = .error fault ↔
    head text.toList = .error fault ∨ ∃ t tail, Parts text t tail ∧ fraction tail = .error fault := by
  simp only [utc, bind_eq_error_iff, Prod.exists, head_eq_ok_iff]
  refine or_congr_right ⟨?_, ?_⟩
  · rintro ⟨t, tail, parts, refused | ⟨ms, read, unreached⟩⟩
    · exact ⟨t, tail, parts, refused⟩
    · have few := (fraction_eq_ok_iff.mp read).lt
      exact absurd unreached (reached_ne_error (parts.addMillis_inRange few))
  · rintro ⟨t, tail, parts, refused⟩
    exact ⟨t, tail, parts, .inl refused⟩

/-- The instant is always reached, so head and offset have all the faults. -/
theorem zoned_eq_error_iff : zoned text = .error fault ↔
    head text.toList = .error fault ∨ ∃ t tail, Parts text t tail ∧ offset tail = .error fault := by
  simp only [zoned, bind_eq_error_iff, Prod.exists, head_eq_ok_iff]
  refine or_congr_right ⟨?_, ?_⟩
  · rintro ⟨t, tail, parts, refused | ⟨seconds, read, unreached⟩⟩
    · exact ⟨t, tail, parts, refused⟩
    · have bounds := (offset_eq_ok_iff.mp read).bounds
      exact absurd unreached (reached_ne_error (parts.subSeconds_inRange bounds))
  · rintro ⟨t, tail, parts, refused⟩
    exact ⟨t, tail, parts, .inl refused⟩

end UploadMessages.Timestamp
