import UploadMessages.Proofs.Text.Order
import UploadMessages.Proofs.Time.Calendar
import UploadMessages.Time

/-! # Civil times in a row

A civil time has one written form. The order of the forms is that of the times, and
the order of the times that occur is that of their instants: a leap second lies
between the second before it and the one after it. Each second of the years 0 to
9999 has one civil time that is no leap second.
-/

namespace UploadMessages

theorem Instant.subSeconds_zero (i : Instant) : i.subSeconds 0 = i := by
  simp [subSeconds]

namespace CivilTime

variable {t t' : CivilTime}

/-- Whether the written form has room for the digits of each part. -/
def Fits (t : CivilTime) : Prop :=
  t.year < 10000 ∧ t.month < 100 ∧ t.day < 100 ∧ t.hour < 100 ∧ t.minute < 100 ∧ t.second < 100

theorem Occurs.fits (h : t.Occurs) (year : t.year < 10000) : t.Fits := by
  obtain ⟨⟨-, month, -, day⟩, hour, minute, second⟩ := h
  have longest : Calendar.monthLength t.year t.month ≤ 31 := by
    unfold Calendar.monthLength
    split
    · split <;> omega
    all_goals omega
  exact ⟨year, by omega, by omega, by omega, by omega, by omega⟩

theorem exists_two_digits {n : Nat} (h : n < 100) :
    ∃ a b, (Numeral.padded 10 2 n).toChars = [a, b] ∧ Numeral.decimal? [a, b] = some n :=
  ⟨_, _, rfl, @Numeral.decimal?_padded 2 n h⟩

theorem exists_four_digits {n : Nat} (h : n < 10000) :
    ∃ a b c d, (Numeral.padded 10 4 n).toChars = [a, b, c, d] ∧
      Numeral.decimal? [a, b, c, d] = some n :=
  ⟨_, _, _, _, rfl, @Numeral.decimal?_padded 4 n h⟩

theorem ofChars?_toChars (h : t.Fits) : ofChars? t.toChars = some t := by
  obtain ⟨year, month, day, hour, minute, second⟩ := h
  obtain ⟨y₁, y₂, y₃, y₄, writtenYear, year⟩ := exists_four_digits year
  obtain ⟨m₁, m₂, writtenMonth, month⟩ := exists_two_digits month
  obtain ⟨d₁, d₂, writtenDay, day⟩ := exists_two_digits day
  obtain ⟨h₁, h₂, writtenHour, hour⟩ := exists_two_digits hour
  obtain ⟨n₁, n₂, writtenMinute, minute⟩ := exists_two_digits minute
  obtain ⟨s₁, s₂, writtenSecond, second⟩ := exists_two_digits second
  simp only [toChars, writtenYear, writtenMonth, writtenDay, writtenHour, writtenMinute,
    writtenSecond, List.cons_append, List.nil_append, ofChars?, year, month, day, hour, minute,
    second]
  rfl

theorem ofChars?_eq_some_iff {cs : List Char} : ofChars? cs = some t ↔ t.Fits ∧ cs = t.toChars := by
  constructor
  · intro h
    unfold ofChars? at h
    split at h
    · simp only [Option.pure_def, Option.bind_eq_bind, Option.bind_eq_some_iff,
        Option.some.injEq] at h
      obtain ⟨year, hy, month, hm, day, hd, hour, hh, minute, hn, second, hs, rfl⟩ := h
      obtain ⟨fitsYear, writtenYear⟩ := Numeral.eq_padded_of_decimal? 4 rfl hy
      obtain ⟨fitsMonth, writtenMonth⟩ := Numeral.eq_padded_of_decimal? 2 rfl hm
      obtain ⟨fitsDay, writtenDay⟩ := Numeral.eq_padded_of_decimal? 2 rfl hd
      obtain ⟨fitsHour, writtenHour⟩ := Numeral.eq_padded_of_decimal? 2 rfl hh
      obtain ⟨fitsMinute, writtenMinute⟩ := Numeral.eq_padded_of_decimal? 2 rfl hn
      obtain ⟨fitsSecond, writtenSecond⟩ := Numeral.eq_padded_of_decimal? 2 rfl hs
      refine ⟨⟨fitsYear, fitsMonth, fitsDay, fitsHour, fitsMinute, fitsSecond⟩, ?_⟩
      simp only [toChars, ← writtenYear, ← writtenMonth, ← writtenDay, ← writtenHour,
        ← writtenMinute, ← writtenSecond, List.cons_append, List.nil_append]
    · cases h
  · rintro ⟨fits, rfl⟩
    exact ofChars?_toChars fits

theorem narrow_toChars (t : CivilTime) : Text.Narrow t.toChars := by
  have digits (width n : Nat) : Text.Narrow (Numeral.padded 10 width n).toChars :=
    Numeral.narrow_toChars _
  have append {cs ds : List Char} (hc : Text.Narrow cs) (hd : Text.Narrow ds) :
      Text.Narrow (cs ++ ds) := List.forall_mem_append.mpr ⟨hc, hd⟩
  have mark {c : Char} (h : c.utf8Size = 1) {cs : List Char} (hc : Text.Narrow cs) :
      Text.Narrow (c :: cs) := List.forall_mem_cons.mpr ⟨h, hc⟩
  exact append (append (append (append (append (digits 4 _) (mark rfl (digits 2 _)))
    (mark rfl (digits 2 _))) (mark rfl (digits 2 _))) (mark rfl (digits 2 _)))
    (mark rfl (digits 2 _))

theorem length_toChars (t : CivilTime) : t.toChars.length = 19 := by
  simp [toChars, Numeral.toChars, Numeral.length_padded]

theorem byteSize_toChars (t : CivilTime) : Text.byteSize t.toChars = 19 :=
  (Text.byteSize_of_narrow t.narrow_toChars).trans t.length_toChars

/-- The second is written in the last two places. -/
theorem decimal?_second (h : t.Fits) : Numeral.decimal? (t.toChars.drop 17) = some t.second := by
  obtain ⟨-, -, -, -, -, second⟩ := h
  rw [toChars, List.append_cons, List.drop_left' (by simp [Numeral.toChars, Numeral.length_padded])]
  exact @Numeral.decimal?_padded 2 _ second

def Before (t t' : CivilTime) : Prop :=
  t.year < t'.year ∨ t.year = t'.year ∧ (t.month < t'.month ∨ t.month = t'.month ∧
    (t.day < t'.day ∨ t.day = t'.day ∧ (t.hour < t'.hour ∨ t.hour = t'.hour ∧
      (t.minute < t'.minute ∨ t.minute = t'.minute ∧ t.second < t'.second))))

theorem lex_toChars_iff (h : t.Fits) (h' : t'.Fits) :
    List.Lex (· < ·) t.toChars t'.toChars ↔ t.Before t' := by
  obtain ⟨year, month, day, hour, minute, second⟩ := h
  obtain ⟨year', month', day', hour', minute', second'⟩ := h'
  have mark (c : Char) (rest rest' : List Char) :
      List.Lex (· < ·) (c :: rest) (c :: rest') ↔ List.Lex (· < ·) rest rest' := by
    simp [List.cons_lex_cons_iff]
  simp only [toChars, List.append_assoc, List.cons_append]
  rw [@Numeral.lex_padded_append_iff 4 _ _ year year', mark,
    @Numeral.lex_padded_append_iff 2 _ _ month month', mark,
    @Numeral.lex_padded_append_iff 2 _ _ day day', mark,
    @Numeral.lex_padded_append_iff 2 _ _ hour hour', mark,
    @Numeral.lex_padded_append_iff 2 _ _ minute minute', mark,
    @Numeral.lex_padded_iff 2 _ _ second second']
  rfl

theorem before_or_eq_or_before (t t' : CivilTime) : t.Before t' ∨ t = t' ∨ t'.Before t := by
  obtain ⟨year, month, day, hour, minute, second⟩ := t
  obtain ⟨year', month', day', hour', minute', second'⟩ := t'
  simp only [Before, mk.injEq]
  omega

def secondOfDay (t : CivilTime) : Nat := t.hour * 3600 + t.minute * 60 + min t.second 59

theorem instant_seconds (t : CivilTime) :
    t.instant.seconds = Calendar.dayNumber t.year t.month t.day * 86400 + t.secondOfDay := rfl

theorem Occurs.secondOfDay_lt (h : t.Occurs) : t.secondOfDay < 86400 := by
  obtain ⟨-, hour, minute, second⟩ := h
  unfold secondOfDay
  omega

/-- Days decide first. On one day the clock does, and the last second of a minute is its leap
second. -/
theorem instant_lt (h : t.Occurs) (h' : t'.Occurs) (before : t.Before t') :
    t.instant < t'.instant := by
  have inDay := h.secondOfDay_lt
  rw [Instant.lt_def, instant_seconds, instant_seconds]
  by_cases earlierDay : Calendar.Before t.year t.month t.day t'.year t'.month t'.day
  · have days := Calendar.dayNumber_lt h.1 h'.1 earlierDay
    omega
  · obtain ⟨-, hour, minute, second⟩ := h
    obtain ⟨-, hour', minute', second'⟩ := h'
    unfold Before at before
    unfold Calendar.Before at earlierDay
    have sameDay : t.year = t'.year ∧ t.month = t'.month ∧ t.day = t'.day := by omega
    obtain ⟨sameYear, sameMonth, sameDay⟩ := sameDay
    simp only [sameYear, sameMonth, sameDay, instant, secondOfDay, Instant.nanosPerSecond]
      at before ⊢
    split <;> split <;> omega

/-- Times that occur are in the order of their instants, leap seconds included. -/
theorem before_iff_instant_lt (h : t.Occurs) (h' : t'.Occurs) :
    t.Before t' ↔ t.instant < t'.instant := by
  refine ⟨instant_lt h h', fun earlier => ?_⟩
  rcases t.before_or_eq_or_before t' with before | rfl | after
  · exact before
  · exact absurd earlier Std.lt_irrefl
  · exact absurd (instant_lt h' h after) (Std.not_gt_of_lt earlier)

/-- Two times that occur stand for two instants. -/
theorem eq_of_instant_eq (h : t.Occurs) (h' : t'.Occurs) (same : t.instant = t'.instant) :
    t = t' := by
  rcases t.before_or_eq_or_before t' with before | rfl | after
  · have earlier := instant_lt h h' before
    rw [same] at earlier
    exact absurd earlier Std.lt_irrefl
  · rfl
  · have later := instant_lt h' h after
    rw [same] at later
    exact absurd later Std.lt_irrefl

/-- The days of the years that are written with four digits. -/
theorem daysBeforeYear_tenThousand : Calendar.daysBeforeYear 10000 = 3652425 := rfl

theorem seconds_mem (h : t.Occurs) (year : t.year < 10000) :
    -62167219200 ≤ t.instant.seconds ∧ t.instant.seconds ≤ 253402300799 := by
  have inDay := h.secondOfDay_lt
  have days := Calendar.dayNumber_mem h.1 year
  rw [daysBeforeYear_tenThousand] at days
  rw [instant_seconds]
  omega

/-- Instants are kept for many more years than those of four digits. -/
theorem instant_inRange (h : t.Occurs) (year : t.year < 10000) : t.instant.InRange := by
  obtain ⟨least, most⟩ := seconds_mem h year
  unfold Instant.InRange Instant.firstSecond Instant.lastSecond
  omega

/-- Each second is the second of a day, and each day has a date. -/
theorem exists_instant {n : Int} (least : -62167219200 ≤ n) (most : n ≤ 253402300799) :
    ∃ t : CivilTime, t.year < 10000 ∧ t.Occurs ∧ t.second ≤ 59 ∧ t.instant = ⟨n, 0⟩ := by
  obtain ⟨count, counted⟩ : ∃ count : Nat, (count : Int) = n / 86400 + 719528 :=
    ⟨(n / 86400 + 719528).toNat, by omega⟩
  obtain ⟨rest, remains⟩ : ∃ rest : Nat, (rest : Int) = n % 86400 :=
    ⟨(n % 86400).toNat, by omega⟩
  obtain ⟨year, month, day, fits, has, number⟩ :=
    @Calendar.exists_date 10000 count (by rw [daysBeforeYear_tenThousand]; omega)
  have hour : rest / 3600 ≤ 23 := by omega
  have minute : rest % 3600 / 60 ≤ 59 := by omega
  have second : rest % 60 ≤ 59 := by omega
  refine ⟨⟨year, month, day, rest / 3600, rest % 3600 / 60, rest % 60⟩, fits,
    ⟨has, hour, minute, Nat.le_succ_of_le second⟩, second, ?_⟩
  have noLeapSecond : rest % 60 ≠ 60 := by omega
  simp only [instant, number, noLeapSecond, if_false, Instant.mk.injEq, and_true]
  omega

/-- Milliseconds are carried into the seconds, but those that a leap second has room for. -/
theorem instant_addMillis (t : CivilTime) (ms : Nat) : t.instant.addMillis ms =
    if t.second = 60 ∧ ms < 1000 then ⟨t.instant.seconds, 1000000000 + ms * 1000000⟩
    else ⟨t.instant.seconds + (ms / 1000 : Nat), ms % 1000 * 1000000⟩ := by
  by_cases leap : t.second = 60
  · by_cases room : ms < 1000
    · have inside : 1000000000 + ms * 1000000 < 2 * 1000000000 := by omega
      simp [Instant.addMillis, Instant.InLeapSecond, instant, Instant.nanosPerSecond,
        Instant.nanosPerMilli, leap, room, inside]
    · have outside : ¬1000000000 + ms * 1000000 < 2 * 1000000000 := by omega
      have seconds : ms * 1000000 / 1000000000 = ms / 1000 := by omega
      have nanos : ms * 1000000 % 1000000000 = ms % 1000 * 1000000 := by omega
      simp [Instant.addMillis, Instant.InLeapSecond, instant, Instant.nanosPerSecond,
        Instant.nanosPerMilli, leap, room, outside, seconds, nanos]
  · have seconds : ms * 1000000 / 1000000000 = ms / 1000 := by omega
    have nanos : ms * 1000000 % 1000000000 = ms % 1000 * 1000000 := by omega
    simp [Instant.addMillis, Instant.InLeapSecond, instant, Instant.nanosPerSecond,
      Instant.nanosPerMilli, leap, seconds, nanos]

end CivilTime

end UploadMessages
