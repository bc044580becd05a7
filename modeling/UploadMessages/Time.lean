import UploadMessages.Text.Numeral

/-! # Times

Days of the proleptic Gregorian calendar are numbered from 1970-01-01 by closed forms.
Years run from 0, which is a leap year; months and days count from 1.

An instant is a count of seconds since 1970-01-01T00:00:00Z and the nanoseconds past
it. A second that is followed by a leap second is two seconds long: from 1000000000
on, the nanoseconds lie in the leap second.

A civil time is a date and a time of day, written `YYYY-MM-DDTHH:MM:SS`. The second
60 stands for a leap second, which any minute may have.
-/

namespace UploadMessages

namespace Calendar

def isLeap (year : Nat) : Bool :=
  year % 4 == 0 && (year % 100 != 0 || year % 400 == 0)

def yearLength (year : Nat) : Nat := if isLeap year then 366 else 365

def monthLength (year month : Nat) : Nat :=
  match month with
  | 2 => if isLeap year then 29 else 28
  | 4 | 6 | 9 | 11 => 30
  | _ => 31

/-- Whether the calendar has this day. -/
abbrev HasDay (year month day : Nat) : Prop :=
  1 ≤ month ∧ month ≤ 12 ∧ 1 ≤ day ∧ day ≤ monthLength year month

/-- The days from the start of year 0 to the start of a year. -/
def daysBeforeYear (year : Nat) : Nat :=
  365 * year + (year + 3) / 4 + (year + 399) / 400 - (year + 99) / 100

/-- The days of a year that come before a month. -/
def daysBeforeMonth (year month : Nat) : Nat :=
  let leapDay := if isLeap year then 1 else 0
  match month with
  | 0 | 1 => 0
  | 2 => 31
  | 3 => 59 + leapDay
  | 4 => 90 + leapDay
  | 5 => 120 + leapDay
  | 6 => 151 + leapDay
  | 7 => 181 + leapDay
  | 8 => 212 + leapDay
  | 9 => 243 + leapDay
  | 10 => 273 + leapDay
  | 11 => 304 + leapDay
  | _ => 334 + leapDay

/-- The day's distance from 1970-01-01, which is day 719528 of the count from year 0. -/
def dayNumber (year month day : Nat) : Int :=
  (daysBeforeYear year + daysBeforeMonth year month + day : Nat) - 719529

theorem daysBeforeYear_succ (year : Nat) :
    daysBeforeYear (year + 1) = daysBeforeYear year + yearLength year := by
  have four : (year + 1 + 3) / 4 = (year + 3) / 4 + if year % 4 = 0 then 1 else 0 := by
    split <;> omega
  have hundred : (year + 1 + 99) / 100 = (year + 99) / 100 + if year % 100 = 0 then 1 else 0 := by
    split <;> omega
  have fourHundred :
      (year + 1 + 399) / 400 = (year + 399) / 400 + if year % 400 = 0 then 1 else 0 := by
    split <;> omega
  have hundred_le : (year + 99) / 100 ≤ (year + 3) / 4 := by omega
  have of_hundred : year % 100 = 0 → year % 4 = 0 := by omega
  have of_fourHundred : year % 400 = 0 → year % 100 = 0 := by omega
  simp only [daysBeforeYear, yearLength, isLeap, four, hundred, fourHundred]
  by_cases h₄ : year % 4 = 0 <;> by_cases h₁ : year % 100 = 0 <;>
    by_cases h₀ : year % 400 = 0 <;> simp_all <;> omega

theorem daysBeforeMonth_succ (year : Nat) {month : Nat} (h : 1 ≤ month) (h' : month ≤ 11) :
    daysBeforeMonth year (month + 1) = daysBeforeMonth year month + monthLength year month := by
  unfold daysBeforeMonth monthLength
  generalize isLeap year = leap
  obtain rfl | rfl | rfl | rfl | rfl | rfl | rfl | rfl | rfl | rfl | rfl :
      month = 1 ∨ month = 2 ∨ month = 3 ∨ month = 4 ∨ month = 5 ∨ month = 6 ∨ month = 7 ∨
        month = 8 ∨ month = 9 ∨ month = 10 ∨ month = 11 := by omega
  all_goals cases leap <;> rfl

end Calendar

@[ext] structure Instant where
  seconds : Int
  nanos : Nat
deriving DecidableEq, Repr

namespace Instant

variable {i j : Instant}

/-- Instants are ordered by their seconds, and those of one second by their nanoseconds. -/
instance : LT Instant where
  lt i j := i.seconds < j.seconds ∨ i.seconds = j.seconds ∧ i.nanos < j.nanos

instance : LE Instant where
  le i j := i.seconds < j.seconds ∨ i.seconds = j.seconds ∧ i.nanos ≤ j.nanos

theorem lt_def :
    i < j ↔ i.seconds < j.seconds ∨ i.seconds = j.seconds ∧ i.nanos < j.nanos := Iff.rfl

theorem le_def :
    i ≤ j ↔ i.seconds < j.seconds ∨ i.seconds = j.seconds ∧ i.nanos ≤ j.nanos := Iff.rfl

instance : Std.IsLinearOrder Instant where
  le_refl i := by
    rw [le_def]
    omega
  le_trans i j k h h' := by
    rw [le_def] at h h' ⊢
    omega
  le_antisymm i j h h' := by
    rw [le_def] at h h'
    apply Instant.ext <;> omega
  le_total i j := by
    rw [le_def, le_def]
    omega

instance : Std.LawfulOrderLT Instant where
  lt_iff i j := by
    rw [lt_def, le_def, le_def]
    omega

def nanosPerSecond : Nat := 1000000000

def nanosPerMilli : Nat := 1000000

def InLeapSecond (i : Instant) : Prop := nanosPerSecond ≤ i.nanos

instance (i : Instant) : Decidable i.InLeapSecond := inferInstanceAs (Decidable (_ ≤ _))

/-- The first second of the year -262143. -/
def firstSecond : Int := -8334601228800

/-- The last second of the year 262142. -/
def lastSecond : Int := 8210266876799

/-- Instants are kept for the years -262143 to 262142. -/
def InRange (i : Instant) : Prop := firstSecond ≤ i.seconds ∧ i.seconds ≤ lastSecond

instance (i : Instant) : Decidable i.InRange := inferInstanceAs (Decidable (_ ∧ _))

/-- The milliseconds since 1970-01-01T00:00:00Z, rounded down. -/
def millis (i : Instant) : Int := i.seconds * 1000 + (i.nanos / nanosPerMilli : Nat)

/-- The instant some milliseconds later. An instant in a leap second stays there while it can;
once the milliseconds lead out of it, they count as if the leap second had not been. -/
def addMillis (i : Instant) (ms : Nat) : Instant :=
  let total := i.nanos + ms * nanosPerMilli
  if i.InLeapSecond ∧ total < 2 * nanosPerSecond then ⟨i.seconds, total⟩
  else
    let carried := if i.InLeapSecond then total - nanosPerSecond else total
    ⟨i.seconds + (carried / nanosPerSecond : Nat), carried % nanosPerSecond⟩

/-- The instant that a clock shows which is `offset` seconds ahead. -/
def subSeconds (i : Instant) (offset : Int) : Instant := ⟨i.seconds - offset, i.nanos⟩

theorem millis_addMillis {i : Instant} (h : ¬i.InLeapSecond) (ms : Nat) :
    (i.addMillis ms).millis = i.millis + ms := by
  have h' : ¬nanosPerSecond ≤ i.nanos := h
  simp only [addMillis, h, false_and, ↓reduceIte, millis, nanosPerMilli, nanosPerSecond] at h' ⊢
  omega

end Instant

structure CivilTime where
  year : Nat
  month : Nat
  day : Nat
  hour : Nat
  minute : Nat
  second : Nat
deriving DecidableEq, Repr

namespace CivilTime

/-- Whether clock and calendar ever show this time. -/
abbrev Occurs (t : CivilTime) : Prop :=
  Calendar.HasDay t.year t.month t.day ∧ t.hour ≤ 23 ∧ t.minute ≤ 59 ∧ t.second ≤ 60

/-- The time read as UTC. A leap second lengthens the second before it. -/
def instant (t : CivilTime) : Instant where
  seconds := Calendar.dayNumber t.year t.month t.day * 86400 +
    (t.hour * 3600 + t.minute * 60 + min t.second 59 : Nat)
  nanos := if t.second = 60 then Instant.nanosPerSecond else 0

/-- The time that a text of the written form names, even one that never occurs. -/
def ofChars? : List Char → Option CivilTime
  | [y₁, y₂, y₃, y₄, '-', m₁, m₂, '-', d₁, d₂, 'T', h₁, h₂, ':', n₁, n₂, ':', s₁, s₂] => do
    return {
      year := ← Numeral.decimal? [y₁, y₂, y₃, y₄]
      month := ← Numeral.decimal? [m₁, m₂]
      day := ← Numeral.decimal? [d₁, d₂]
      hour := ← Numeral.decimal? [h₁, h₂]
      minute := ← Numeral.decimal? [n₁, n₂]
      second := ← Numeral.decimal? [s₁, s₂] }
  | _ => none

def toChars (t : CivilTime) : List Char :=
  let two n := (Numeral.padded 10 2 n).toChars
  (Numeral.padded 10 4 t.year).toChars ++ '-' :: two t.month ++ '-' :: two t.day ++
    'T' :: two t.hour ++ ':' :: two t.minute ++ ':' :: two t.second

end CivilTime

end UploadMessages
