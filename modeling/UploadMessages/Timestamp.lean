import UploadMessages.Field
import UploadMessages.Text.Bytes
import UploadMessages.Time

/-! # Timestamps

Both kinds of timestamp begin with a civil time of nineteen bytes. What follows it is
the tail, which each kind reads in its own way. The instant that head and tail come to
is the last thing to be tested.

A timestamp in UTC is written `YYYY-MM-DDTHH:MM:SS.fZ`, where `f` has one to nine
digits. These are a count of milliseconds and no decimal fraction: `.7996883` stands
for 7996.883 seconds past the second. A timestamp with an offset from UTC is written
`YYYY-MM-DDTHH:MM:SS±HH:MM`; a `Z` in place of the offset means none.
-/

namespace UploadMessages.Timestamp

/-- The tests of a timestamp, in the order in which they are made: four of its head, then three
of the fraction or three of the offset, and one of the instant. -/
inductive Fault
  | empty
  | tooShort
  | notATime
  | noSuchTime
  | notAFraction
  | fractionDigits
  | fractionNumber
  | notAnOffset
  | offsetSign
  | offsetRange
  | instantRange
deriving DecidableEq, Repr

def Fault.message : Fault → String
  | .empty => "empty"
  | .tooShort => "too short"
  | .notATime => "expected YYYY-MM-DDTHH:MM:SS"
  | .noSuchTime => "input is out of range"
  | .notAFraction => "expected `.<fraction>Z` after seconds"
  | .fractionDigits => "fraction must be 1 to 9 digits"
  | .fractionNumber => "fraction is not a number"
  | .notAnOffset => "expected offset ±HH:MM"
  | .offsetSign => "offset must start with + or -"
  | .offsetRange => "offset out of range"
  | .instantRange => "instant out of range"

/-- Each fault is told from the others by its text. -/
theorem Fault.message_injective {f f' : Fault} (h : f.message = f'.message) : f = f' := by
  revert h; cases f <;> cases f' <;> decide

def headBytes : Nat := 19

/-- The civil time at the head of a text, and the tail. -/
def head (text : List Char) : Except Fault (CivilTime × List Char) :=
  if text.isEmpty then .error .empty
  else match Text.cut headBytes text with
    | none => .error .tooShort
    | some (front, tail) => match CivilTime.ofChars? front with
      | none => .error .notATime
      | some time => if time.Occurs then .ok (time, tail) else .error .noSuchTime

def reached (i : Instant) : Except Fault Instant :=
  if i.InRange then .ok i else .error .instantRange

/-- The digits between the point and the final `Z` of a tail, read as a number of 64 bits. -/
def fraction (tail : List Char) : Except Fault Nat :=
  match tail with
  | '.' :: rest =>
    if rest.getLast? = some 'Z' then
      let digits := rest.dropLast
      if 1 ≤ digits.length ∧ digits.length ≤ 9 then
        match Numeral.decimal? digits with
        | some n => if n < Signed.bound 64 then .ok n else .error .fractionNumber
        | none => .error .fractionDigits
      else .error .fractionDigits
    else .error .notAFraction
  | _ => .error .notAFraction

def utc (text : String) : Except Fault Instant := do
  let (time, tail) ← head text.toList
  let ms ← fraction tail
  reached (time.instant.addMillis ms)

/-- An offset is less than a day, either way. -/
def ahead (seconds : Int) : Except Fault Int :=
  if -86400 < seconds ∧ seconds < 86400 then .ok seconds else .error .offsetRange

/-- The seconds that a tail puts the clock ahead of UTC. A wrong sign is looked for only in a
tail that is an offset otherwise, and a sign has one byte. -/
def offset (tail : List Char) : Except Fault Int :=
  match tail with
  | ['Z'] => ahead 0
  | [sign, h₁, h₂, ':', m₁, m₂] =>
    match Numeral.decimal? [h₁, h₂], Numeral.decimal? [m₁, m₂] with
    | some hours, some minutes =>
      if sign.utf8Size ≠ 1 then .error .notAnOffset
      else if sign ≠ '+' ∧ sign ≠ '-' then .error .offsetSign
      else if 23 < hours ∨ 59 < minutes then .error .offsetRange
      else
        let seconds : Int := (hours * 3600 + minutes * 60 : Nat)
        ahead (if sign = '-' then -seconds else seconds)
    | _, _ => .error .notAnOffset
  | _ => .error .notAnOffset

def zoned (text : String) : Except Fault Instant := do
  let (time, tail) ← head text.toList
  let seconds ← offset tail
  reached (time.instant.subSeconds seconds)

end UploadMessages.Timestamp
