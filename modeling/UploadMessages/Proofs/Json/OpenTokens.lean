import UploadMessages.Proofs.Json.Grammar
import UploadMessages.Proofs.Text.Numerals

/-! # What an open token has read

The state of a number or text that is being read says which characters have been
read of it, as far as the grammar is concerned. One more character keeps this so,
and a token that ends has been spelled.
-/

namespace UploadMessages.Json

namespace OpenNumber

def Holds : OpenNumber → List Char → Prop
  | .sign, cs => cs = ['-']
  | .whole negative digits, cs => IsWhole digits.reverse ∧
    cs = signSpelling negative ++ Numeral.toChars digits.reverse
  | .point negative before, cs => IsWhole before.reverse ∧
    cs = signSpelling negative ++ Numeral.toChars before.reverse ++ ['.']
  | .fraction negative before digits, cs => IsWhole before.reverse ∧ digits ≠ [] ∧
    cs = signSpelling negative ++ Numeral.toChars before.reverse ++
      '.' :: Numeral.toChars digits.reverse
  | .mark mantissa, cs => mantissa.exponent = none ∧
    ∃ ds e, LiteralSpelling mantissa ds ∧ IsMark e ∧ cs = ds ++ [e]
  | .markSign mantissa negative, cs => mantissa.exponent = none ∧
    ∃ ds es, LiteralSpelling mantissa ds ∧ MarkSpelling negative es ∧ cs = ds ++ es
  | .exponent mantissa negative digits, cs => mantissa.exponent = none ∧ digits ≠ [] ∧
    ∃ ds es, LiteralSpelling mantissa ds ∧ MarkSpelling negative es ∧
      cs = ds ++ es ++ Numeral.toChars digits.reverse

theorem isWhole_singleton (d : Digit 10) : IsWhole [d] := by simp [IsWhole]

theorem isWhole_snoc {digits : Numeral 10} (h : IsWhole digits.reverse)
    (more : isZero digits = false) (d : Digit 10) : IsWhole (d :: digits).reverse := by
  obtain ⟨nonempty, leading⟩ := h
  have length : (d :: digits).reverse.head? = digits.reverse.head? := by
    rw [List.reverse_cons, List.head?_append, Option.or_of_isSome (by simpa using nonempty)]
  refine ⟨by simp, fun h0 => ?_⟩
  rw [length] at h0
  obtain ⟨e, rfl⟩ := List.length_eq_one_iff.mp ((List.length_reverse).symm.trans (leading h0))
  have he : e = 0 := by simpa using h0
  subst he
  cases more

variable {n n' : OpenNumber} {cs : List Char} {c : Char}

theorem Holds.start (h : start? c = some n) : n.Holds [c] := by
  unfold start? at h
  split at h
  · obtain rfl := Option.some.inj h
    subst c
    rfl
  · split at h
    · rename_i d hd
      obtain rfl := Option.some.inj h
      rw [Digit.eq_char_of_ofChar? hd]
      exact ⟨isWhole_singleton d, rfl⟩
    · cases h

theorem Holds.literal {l : Literal} (h : n.Holds cs) (ends : n.literal? = some l) :
    LiteralSpelling l cs := by
  cases n <;> simp only [literal?, Option.some.injEq, reduceCtorEq] at ends
  case whole negative digits =>
    subst ends
    obtain ⟨whole, rfl⟩ := h
    have spelled := LiteralSpelling.intro (l := ⟨negative, digits.reverse, [], none⟩) whole
      .absent .absent
    simpa using spelled
  case fraction negative before digits =>
    subst ends
    obtain ⟨whole, nonempty, rfl⟩ := h
    have spelled := LiteralSpelling.intro
      (l := ⟨negative, before.reverse, digits.reverse, none⟩) whole
      (.present (by simpa using nonempty)) .absent
    simpa using spelled
  case exponent mantissa negative digits =>
    subst ends
    obtain ⟨plain, nonempty, ds, es, ⟨whole, fraction, power⟩, mark, rfl⟩ := h
    rw [plain] at power
    cases power
    have spelled := LiteralSpelling.intro
      (l := { mantissa with exponent := some ⟨negative, digits.reverse⟩ }) whole fraction
      (.present mark (by simpa using nonempty))
    simpa using spelled

/-- A mark follows only what is a literal by itself. -/
theorem holds_mark {mantissa : Literal} (h : n.Holds cs) (ends : n.literal? = some mantissa)
    (plain : mantissa.exponent = none) (mark : IsMark c) :
    (OpenNumber.mark mantissa).Holds (cs ++ [c]) :=
  ⟨plain, cs, c, h.literal ends, mark, rfl⟩

theorem Holds.digit {d : Digit 10} (h : n.Holds cs) (taken : n.digit d = some n') :
    n'.Holds (cs ++ [d.char]) := by
  cases n <;> simp only [OpenNumber.digit, Option.some.injEq] at taken
  case sign =>
    subst taken
    rw [show cs = ['-'] from h]
    exact ⟨isWhole_singleton d, rfl⟩
  case whole negative digits =>
    split at taken
    · cases taken
    · rename_i more
      obtain rfl := Option.some.inj taken
      obtain ⟨whole, rfl⟩ := h
      exact ⟨isWhole_snoc whole (by simpa using more) d, by simp⟩
  case point negative before =>
    subst taken
    obtain ⟨whole, rfl⟩ := h
    exact ⟨whole, by simp, by simp⟩
  case fraction negative before digits =>
    subst taken
    obtain ⟨whole, _, rfl⟩ := h
    exact ⟨whole, by simp, by simp⟩
  case mark mantissa =>
    subst taken
    obtain ⟨plain, ds, e, spelled, mark, rfl⟩ := h
    exact ⟨plain, by simp, ds, [e], spelled, .bare mark, by simp⟩
  case markSign mantissa negative =>
    subst taken
    obtain ⟨plain, ds, es, spelled, mark, rfl⟩ := h
    exact ⟨plain, by simp, ds, es, spelled, mark, by simp⟩
  case exponent mantissa negative digits =>
    subst taken
    obtain ⟨plain, _, ds, es, spelled, mark, rfl⟩ := h
    exact ⟨plain, by simp, ds, es, spelled, mark, by simp⟩

theorem Holds.sign (h : n.Holds cs) (taken : n.sign? c = some n') : n'.Holds (cs ++ [c]) := by
  cases n <;> simp only [sign?, reduceCtorEq] at taken
  case whole negative digits =>
    split at taken
    · subst c
      obtain rfl := Option.some.inj taken
      obtain ⟨whole, rfl⟩ := h
      exact ⟨whole, rfl⟩
    · split at taken
      · rename_i mark
        obtain rfl := Option.some.inj taken
        exact holds_mark h rfl rfl mark
      · cases taken
  case fraction negative before digits =>
    split at taken
    · rename_i mark
      obtain rfl := Option.some.inj taken
      exact holds_mark h rfl rfl mark
    · cases taken
  case mark mantissa =>
    obtain ⟨plain, ds, e, spelled, mark, rfl⟩ := h
    split at taken
    · subst c
      obtain rfl := Option.some.inj taken
      exact ⟨plain, ds, [e, '+'], spelled, .plus mark, by simp⟩
    · split at taken
      · subst c
        obtain rfl := Option.some.inj taken
        exact ⟨plain, ds, [e, '-'], spelled, .minus mark, by simp⟩
      · cases taken

/-- What a number has read, it has read with one more character. -/
theorem Holds.next_more (h : n.Holds cs) (more : n.next c = .ok (.more n')) :
    n'.Holds (cs ++ [c]) := by
  unfold next at more
  split at more
  · rename_i d hd
    split at more
    · rename_i taken
      cases more
      rw [Digit.eq_char_of_ofChar? hd]
      exact h.digit taken
    · cases more
  · split at more
    · rename_i taken
      cases more
      exact h.sign taken
    · split at more <;> cases more

theorem Holds.next_done {l : Literal} (h : n.Holds cs) (done : n.next c = .ok (.done l)) :
    LiteralSpelling l cs := by
  unfold next at done
  split at done
  · split at done <;> cases done
  · split at done
    · cases done
    · split at done
      · rename_i ends
        cases done
        exact h.literal ends
      · cases done

end OpenNumber

def HighSpelling (high : Nat) (cs : List Char) : Prop :=
  OpenText.IsHigh high ∧ ∃ ds, UnitSpelling high ds ∧ cs = '\\' :: 'u' :: ds

/-- The escape before that of a unit, if the unit is the low one of a pair. -/
def BeforeUnit (high : Option Nat) (cs : List Char) : Prop :=
  match high with
  | none => cs = []
  | some h => HighSpelling h cs

def Escape.Holds : Escape → List Char → Prop
  | .none, cs => cs = []
  | .backslash, cs => cs = ['\\']
  | .unit high places, cs => Text.byteSize places < 4 ∧
    ∃ ds, BeforeUnit high ds ∧ cs = ds ++ '\\' :: 'u' :: places
  | .pair high, cs => HighSpelling high cs
  | .pairBackslash high, cs => ∃ ds, HighSpelling high ds ∧ cs = ds ++ ['\\']

namespace OpenText

def Holds (t : OpenText) (cs : List Char) : Prop :=
  ∃ ds es, TextSpelling t.read.reverse ds ∧ t.escape.Holds es ∧ cs = ds ++ es

variable {t t' : OpenText} {cs : List Char} {c : Char}

theorem holds_empty : empty.Holds [] := ⟨[], [], .nil, rfl, rfl⟩

theorem escape_of_escaped? {l : Char} (h : escaped? l = some c) : LetterEscape l c := by
  unfold escaped? at h
  repeat' split at h
  all_goals cases h
  all_goals subst l
  · exact .quote
  · exact .backslash
  · exact .slash
  · exact .backspace
  · exact .formFeed
  · exact .lineFeed
  · exact .carriageReturn
  · exact .tab

/-- One more character has been spelled. -/
theorem holds_char {read ds es : List Char} (before : TextSpelling read.reverse ds)
    (spelled : CharSpelling c es) : Holds ⟨c :: read, .none⟩ (ds ++ es) := by
  refine ⟨ds ++ es, [], ?_, rfl, by simp⟩
  rw [List.reverse_cons]
  exact .snoc before spelled

/-- The place that fills the four bytes of a unit is the fourth. -/
theorem unitSpelling_of_ofChars? {places : List Char} {digits : Numeral 16}
    (room : Text.byteSize places < 4) (full : ¬Text.byteSize (places ++ [c]) < 4)
    (parsed : Numeral.ofChars? 16 (places ++ [c]) = some digits) :
    UnitSpelling digits.value (places ++ [c]) := by
  refine ⟨?_, digits, parsed, rfl⟩
  have size := Numeral.byteSize_of_ofChars? parsed
  have most := Text.length_le_byteSize places
  have least := c.utf8Size_pos
  simp only [Text.byteSize_append, Text.byteSize_cons, Text.byteSize_nil, List.length_append,
    List.length_cons, List.length_nil] at size full ⊢
  omega

theorem holds_takeUnit {read ds es places : List Char} {high : Option Nat} {unit : Nat}
    (before : TextSpelling read.reverse ds) (earlier : BeforeUnit high es)
    (digits : UnitSpelling unit places) (taken : takeUnit read high unit = .ok t) :
    t.Holds (ds ++ (es ++ '\\' :: 'u' :: places)) := by
  cases high with
  | some high =>
    obtain ⟨isHigh, hs, highDigits, rfl⟩ := earlier
    simp only [takeUnit] at taken
    split at taken
    · rename_i isLow
      cases taken
      exact holds_char before (.pair highDigits digits isHigh isLow)
    · cases taken
  | none =>
    obtain rfl := earlier
    simp only [takeUnit] at taken
    split at taken
    · cases taken
    · rename_i notLow
      split at taken
      · rename_i isHigh
        cases taken
        exact ⟨ds, _, before, ⟨isHigh, places, digits, rfl⟩, rfl⟩
      · rename_i notHigh
        cases taken
        exact holds_char before (.unit digits notHigh notLow)

theorem holds_more_none {read ds : List Char} (before : TextSpelling read.reverse ds)
    (more : next ⟨read, .none⟩ c = .ok (.more t')) : t'.Holds (ds ++ [c]) := by
  simp only [next] at more
  split at more
  · cases more
  · rename_i notQuote
    split at more
    · subst c
      cases more
      exact ⟨ds, ['\\'], before, rfl, rfl⟩
    · rename_i notBackslash
      split at more
      · cases more
      · rename_i visible
        cases more
        exact holds_char before (.raw (Nat.not_lt.mp visible) notQuote notBackslash)

theorem holds_more_backslash {read ds : List Char} (before : TextSpelling read.reverse ds)
    (more : next ⟨read, .backslash⟩ c = .ok (.more t')) : t'.Holds (ds ++ ['\\', c]) := by
  simp only [next] at more
  split at more
  · subst c
    cases more
    exact ⟨ds, ['\\', 'u'], before, ⟨by decide, [], rfl, rfl⟩, rfl⟩
  · split at more
    · rename_i escaped
      cases more
      exact holds_char before (.letter (escape_of_escaped? escaped))
    · cases more

theorem holds_more_unit {read ds hs places : List Char} {high : Option Nat}
    (before : TextSpelling read.reverse ds) (earlier : BeforeUnit high hs)
    (room : Text.byteSize places < 4)
    (more : next ⟨read, .unit high places⟩ c = .ok (.more t')) :
    t'.Holds (ds ++ (hs ++ '\\' :: 'u' :: (places ++ [c]))) := by
  simp only [next] at more
  split at more
  · rename_i room'
    cases more
    exact ⟨ds, _, before, ⟨room', hs, earlier, rfl⟩, rfl⟩
  · rename_i full
    split at more
    · rename_i digits parsed
      split at more
      · rename_i taken
        cases more
        exact holds_takeUnit before earlier (unitSpelling_of_ofChars? room full parsed) taken
      · cases more
    · cases more

/-- What a text has read, it has read with one more character. -/
theorem Holds.next_more (h : t.Holds cs) (more : t.next c = .ok (.more t')) :
    t'.Holds (cs ++ [c]) := by
  obtain ⟨read, escape⟩ := t
  obtain ⟨ds, es, before, pending, rfl⟩ := h
  cases escape with
  | none =>
    obtain rfl : es = [] := pending
    simpa using holds_more_none before more
  | backslash =>
    obtain rfl : es = ['\\'] := pending
    simpa using holds_more_backslash before more
  | unit high places =>
    obtain ⟨room, hs, earlier, rfl⟩ := pending
    simpa using holds_more_unit before earlier room more
  | pair high =>
    simp only [next] at more
    split at more
    · subst c
      cases more
      exact ⟨ds, es ++ ['\\'], before, ⟨es, pending, rfl⟩, by simp⟩
    · cases more
  | pairBackslash high =>
    obtain ⟨hs, spelled, rfl⟩ := pending
    simp only [next] at more
    split at more
    · subst c
      cases more
      exact ⟨ds, hs ++ ['\\', 'u'], before, ⟨by decide, hs, spelled, rfl⟩, by simp⟩
    · cases more

/-- A text ends with a quote, and only after whole characters. -/
theorem Holds.next_done {s : String} (h : t.Holds cs) (done : t.next c = .ok (.done s)) :
    TextSpelling s.toList cs ∧ c = '"' := by
  obtain ⟨read, escape⟩ := t
  obtain ⟨ds, es, before, pending, rfl⟩ := h
  cases escape <;> simp only [next] at done
  case none =>
    obtain rfl : es = [] := pending
    split at done
    · rename_i quote
      cases done
      rw [List.append_nil, String.toList_ofList]
      exact ⟨before, quote⟩
    · repeat' split at done
      all_goals cases done
  all_goals
    repeat' split at done
    all_goals cases done

end OpenText

end UploadMessages.Json
