import Mathlib.Data.Set.Function
import UploadMessages.Proofs.Time.CivilTimes
import UploadMessages.Timestamp

/-! # The heads of timestamps

A head is the text of a civil time that occurs in a year of four digits. Heads are in
the order of the instants that they stand for, leap seconds among them; without the
leap seconds there is one head for each second of these years.
-/

namespace UploadMessages.Timestamp

/-- The parts of a timestamp: the civil time of its head, and its tail. -/
structure Parts (text : String) (t : CivilTime) (tail : List Char) : Prop where
  year : t.year < 10000
  occurs : t.Occurs
  written : text.toList = t.toChars ++ tail

/-- A head is read as the time whose form it has, if the time occurs. -/
theorem head_eq_ok_iff {text : String} {tail : List Char} {t : CivilTime} :
    head text.toList = .ok (t, tail) ↔ Parts text t tail := by
  constructor
  · intro h
    unfold head at h
    split at h
    · cases h
    split at h
    · cases h
    · rename_i front rest hcut
      split at h
      · cases h
      · rename_i time named
        split at h
        · rename_i occurs
          cases h
          obtain ⟨fits, rfl⟩ := CivilTime.ofChars?_eq_some_iff.mp named
          exact ⟨fits.1, occurs, (Text.cut_eq_some_iff.mp hcut).1⟩
        · cases h
  · rintro ⟨year, occurs, written⟩
    have hcut : Text.cut headBytes (t.toChars ++ tail) = some (t.toChars, tail) :=
      Text.cut_eq_some_iff.mpr ⟨rfl, t.byteSize_toChars⟩
    have nonempty : (t.toChars ++ tail).isEmpty = false := by
      cases written : t.toChars with
      | nil =>
        have long := t.length_toChars
        rw [written] at long
        cases long
      | cons c cs => rfl
    rw [written]
    simp [head, nonempty, hcut, CivilTime.ofChars?_toChars (occurs.fits year), occurs]

def second? (text : String) : Option Nat := Numeral.decimal? ((text.toList.drop 17).take 2)

theorem Parts.second?_eq {text : String} {t : CivilTime} {tail : List Char}
    (h : Parts text t tail) : second? text = some t.second := by
  have places : (t.toChars ++ tail).drop 17 = t.toChars.drop 17 ++ tail :=
    List.drop_append_of_le_length (by simp [t.length_toChars])
  have two : (t.toChars.drop 17).length = 2 := by simp [t.length_toChars]
  rw [second?, h.written, places, List.take_left' two]
  exact CivilTime.decimal?_second (h.occurs.fits h.year)

theorem reached_eq_ok_iff {i j : Instant} : reached i = .ok j ↔ i.InRange ∧ i = j := by
  unfold reached
  split
  · rename_i inRange
    simp [inRange]
  · rename_i outOfRange
    simp [outOfRange]

/-- A text of nineteen bytes that a `Z` makes a timestamp, and the instant that this stands for. -/
structure Head where
  text : String
  size : text.utf8ByteSize = headBytes
  instant : Instant
  reads : zoned (text ++ "Z") = .ok instant

namespace Head

/-- Two heads are the same if their texts are, as the text decides the instant. -/
theorem eq_of_text_eq {a b : Head} (h : a.text = b.text) : a = b := by
  obtain ⟨text, size, instant, reads⟩ := a
  obtain ⟨text', size', instant', reads'⟩ := b
  obtain rfl : text = text' := h
  rw [reads] at reads'
  cases reads'
  rfl

theorem exists_time (a : Head) : ∃ t : CivilTime, t.year < 10000 ∧ t.Occurs ∧
    a.text.toList = t.toChars ∧ a.instant = t.instant := by
  obtain ⟨text, size, instant, reads⟩ := a
  unfold zoned at reads
  cases h : head (text ++ "Z").toList with
  | error fault =>
    rw [h] at reads
    cases reads
  | ok p =>
    obtain ⟨t, tail⟩ := p
    obtain ⟨year, occurs, written⟩ := head_eq_ok_iff.mp h
    have before : Text.cut headBytes (text ++ "Z").toList = some (text.toList, ['Z']) :=
      Text.cut_eq_some_iff.mpr ⟨String.toList_append, (Text.byteSize_toList text).trans size⟩
    have before' : Text.cut headBytes (text ++ "Z").toList = some (t.toChars, tail) :=
      Text.cut_eq_some_iff.mpr ⟨written, t.byteSize_toChars⟩
    rw [before] at before'
    obtain ⟨sameText, rfl⟩ := Prod.mk.inj (Option.some.inj before')
    rw [h] at reads
    have arrives : reached (t.instant.subSeconds 0) = .ok instant := reads
    rw [Instant.subSeconds_zero, reached_eq_ok_iff] at arrives
    exact ⟨t, year, occurs, sameText, arrives.2.symm⟩

def ofTime (t : CivilTime) (year : t.year < 10000) (occurs : t.Occurs) : Head where
  text := String.ofList t.toChars
  size := by rw [← Text.byteSize_toList, String.toList_ofList, t.byteSize_toChars, headBytes]
  instant := t.instant
  reads := by
    have read : head (String.ofList t.toChars ++ "Z").toList = .ok (t, ['Z']) :=
      head_eq_ok_iff.mpr ⟨year, occurs, by rw [String.toList_append, String.toList_ofList]; rfl⟩
    have arrives : reached (t.instant.subSeconds 0) = .ok t.instant := by
      rw [Instant.subSeconds_zero, reached_eq_ok_iff]
      exact ⟨CivilTime.instant_inRange occurs year, rfl⟩
    rw [zoned, read]
    exact arrives

variable {a b : Head}

theorem precedes_iff (a b : Head) : Text.Precedes a.text b.text ↔ a.instant < b.instant := by
  obtain ⟨t, year, occurs, written, instant⟩ := a.exists_time
  obtain ⟨t', year', occurs', written', instant'⟩ := b.exists_time
  have narrow : Text.Narrow a.text.toList := written ▸ t.narrow_toChars
  have narrow' : Text.Narrow b.text.toList := written' ▸ t'.narrow_toChars
  rw [Text.precedes_iff narrow narrow', written, written', instant, instant',
    CivilTime.lex_toChars_iff (occurs.fits year) (occurs'.fits year'),
    CivilTime.before_iff_instant_lt occurs occurs']

theorem eq_of_instant_eq (h : a.instant = b.instant) : a = b := by
  obtain ⟨t, -, occurs, written, instant⟩ := a.exists_time
  obtain ⟨t', -, occurs', written', instant'⟩ := b.exists_time
  obtain rfl := CivilTime.eq_of_instant_eq occurs occurs' (instant.symm.trans (h.trans instant'))
  exact eq_of_text_eq (String.toList_inj.mp (written.trans written'.symm))

/-- A head whose second is no leap second. -/
def Ordinary (a : Head) : Prop := ∃ second ≤ 59, second? a.text = some second

theorem ordinary_iff {t : CivilTime} (year : t.year < 10000) (occurs : t.Occurs)
    (written : a.text.toList = t.toChars) : a.Ordinary ↔ t.second ≤ 59 := by
  have parts : Parts a.text t [] := ⟨year, occurs, by rw [written, List.append_nil]⟩
  simp only [Ordinary, parts.second?_eq, Option.some.injEq, exists_eq_right']

theorem Ordinary.nanos_eq (h : a.Ordinary) : a.instant.nanos = 0 := by
  obtain ⟨t, year, occurs, written, instant⟩ := a.exists_time
  have second := (ordinary_iff year occurs written).mp h
  rw [instant, CivilTime.instant]
  exact if_neg (by omega)

theorem seconds_injOn : Set.InjOn (fun a : Head => a.instant.seconds) {a | a.Ordinary} := by
  intro a ha b hb same
  have nanos : a.instant.nanos = b.instant.nanos := ha.nanos_eq.trans hb.nanos_eq.symm
  exact eq_of_instant_eq (Instant.ext same nanos)

/-- Heads are ordered, byte by byte, as the instants that they stand for; without the leap seconds
they stand, each for its own, for all seconds from the first of year 0 to the last of year 9999. -/
theorem ordered_without_gaps :
    (∀ a b : Head, Text.Precedes a.text b.text ↔ a.instant < b.instant) ∧
      Set.BijOn (fun a : Head => a.instant.seconds) {a | a.Ordinary}
        {n | -62167219200 ≤ n ∧ n ≤ 253402300799} := by
  refine ⟨precedes_iff, ?_, seconds_injOn, ?_⟩
  · intro a _
    obtain ⟨t, year, occurs, -, instant⟩ := a.exists_time
    have seconds := CivilTime.seconds_mem occurs year
    rwa [← instant] at seconds
  · rintro n ⟨least, most⟩
    obtain ⟨t, year, occurs, second, instant⟩ := CivilTime.exists_instant least most
    refine ⟨ofTime t year occurs, ?_, congrArg Instant.seconds instant⟩
    exact (ordinary_iff year occurs String.toList_ofList).mpr second

end Head

end UploadMessages.Timestamp
