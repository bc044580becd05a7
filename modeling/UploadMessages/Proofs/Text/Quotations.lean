import Mathlib.Data.List.Basic
import UploadMessages.Proofs.Text.Numerals
import UploadMessages.Text.Characters

/-! # Quotations

A quoted text holds no control character, whatever the text holds. What stands for a character
tells where it ends, and the quote that closes the text stands for none. So whatever follows a
quoted text, the text is read off in one way only.
-/

namespace UploadMessages

theorem Digit.char_ne_brace (d : Digit 16) : d.char ≠ '\x7d' := by
  revert d; decide

theorem Digit.char_injective {d e : Digit 16} (h : d.char = e.char) : d = e := by
  have same := ofChar?_char_hexadecimal d
  rw [h, ofChar?_char_hexadecimal e] at same
  exact (Option.some.inj same).symm

/-- A brace ends a numeral, whatever follows. -/
theorem Numeral.toChars_append_brace_inj {ds es : Numeral 16} {rest rest' : List Char}
    (h : ds.toChars ++ '\x7d' :: rest = es.toChars ++ '\x7d' :: rest') :
    ds = es ∧ rest = rest' := by
  induction ds generalizing es with
  | nil =>
    cases es with
    | nil => exact ⟨rfl, List.tail_eq_of_cons_eq h⟩
    | cons e es => exact absurd (List.head_eq_of_cons_eq h).symm e.char_ne_brace
  | cons d ds ih =>
    cases es with
    | nil => exact absurd (List.head_eq_of_cons_eq h) d.char_ne_brace
    | cons e es =>
      obtain ⟨digit, later⟩ := List.cons.inj h
      obtain ⟨rfl, rest⟩ := ih later
      exact ⟨by rw [Digit.char_injective digit], rest⟩

namespace Text

variable {c d l : Char} {cs ds rest rest' : List Char}

def IsControl (c : Char) : Prop := c.toNat < 0x20 ∨ c.toNat = 0x7f

instance (c : Char) : Decidable (IsControl c) := inferInstanceAs (Decidable (_ ∨ _))

def NoControls (cs : List Char) : Prop := ∀ c ∈ cs, ¬IsControl c

instance (cs : List Char) : Decidable (NoControls cs) :=
  List.decidableBAll (fun c => ¬IsControl c) cs

@[simp] theorem noControls_nil : NoControls [] := List.forall_mem_nil _

@[simp] theorem noControls_cons : NoControls (c :: cs) ↔ ¬IsControl c ∧ NoControls cs :=
  List.forall_mem_cons

@[simp] theorem noControls_append : NoControls (cs ++ ds) ↔ NoControls cs ∧ NoControls ds :=
  List.forall_mem_append

theorem NoControls.of_subset (h : NoControls ds) (sub : cs ⊆ ds) : NoControls cs :=
  fun c mem => h c (sub mem)

/-- The text of a literal is checked as the list of its characters. -/
theorem NoControls.literal (h : NoControls cs) : NoControls (String.ofList cs).toList := by
  rwa [String.toList_ofList]

theorem NoControls.append {s t : String} (h : NoControls s.toList) (h' : NoControls t.toList) :
    NoControls (s ++ t).toList := by
  rw [String.toList_append]
  exact noControls_append.mpr ⟨h, h'⟩

theorem NoControls.toChars {b : Nat} (digit : ∀ d : Digit b, ¬IsControl d.char)
    (ds : Numeral b) : NoControls ds.toChars := by
  intro c mem
  obtain ⟨d, -, rfl⟩ := List.mem_map.mp mem
  exact digit d

theorem isHidden_of_isControl (h : IsControl c) : isHidden c = true := by
  have unprintable : isUnprintable c = true := by
    apply Ranges.contains_iff.mpr
    rcases h with low | delete
    · exact ⟨(0x0, 0x1f), .head _, Nat.zero_le _, Nat.le_of_lt_succ low⟩
    · refine ⟨(0x7f, 0xa0), .tail _ (.head _), ?_⟩
      rw [delete]
      decide
  rw [isHidden, unprintable, Bool.true_or, Bool.true_or]

def letters : List (Char × Char) :=
  [('"', '"'), ('\\', '\\'), ('\t', 't'), ('\n', 'n'), ('\r', 'r'), ('\x00', '0')]

theorem mem_letters_of_quotedLetter? (h : quotedLetter? c = some l) : (c, l) ∈ letters := by
  unfold quotedLetter? at h
  have null (zero : c.toNat = '\x00'.toNat) : c = '\x00' := Char.toNat_inj.mp zero
  repeat' split at h
  all_goals cases h
  all_goals simp_all [letters]

/-- What stands for a character: a letter after a backslash, its number in braces, or itself. -/
inductive StandsFor (c : Char) : List Char → Prop
  | letter {l : Char} (listed : (c, l) ∈ letters) : StandsFor c ['\\', l]
  | number (hidden : isHidden c = true) :
    StandsFor c ('\\' :: 'u' :: '\x7b' :: (Numeral.ofNat 16 c.toNat).toChars ++ ['\x7d'])
  | itself (shown : isHidden c = false) (noQuote : c ≠ '"') (noBackslash : c ≠ '\\') :
    StandsFor c [c]

theorem standsFor_quotedChar (c : Char) : StandsFor c (quotedChar c) := by
  unfold quotedChar
  cases letter : quotedLetter? c with
  | some l => exact .letter (mem_letters_of_quotedLetter? letter)
  | none =>
    cases hidden : isHidden c with
    | true => exact .number hidden
    | false =>
      refine .itself hidden ?_ ?_
      · rintro rfl
        cases letter
      · rintro rfl
        cases letter

namespace StandsFor

theorem noControls (h : StandsFor c cs) : NoControls cs := by
  have backslash : ¬IsControl '\\' := by decide
  cases h with
  | letter listed =>
    have shown : ∀ entry ∈ letters, ¬IsControl entry.2 := by decide
    simp [backslash, shown _ listed]
  | number =>
    have u : ¬IsControl 'u' := by decide
    have brace : ¬IsControl '\x7b' := by decide
    have brace' : ¬IsControl '\x7d' := by decide
    have digits := NoControls.toChars (by decide) (Numeral.ofNat 16 c.toNat)
    simp [backslash, u, brace, brace', digits]
  | itself shown =>
    have visible : ¬IsControl c := fun control => by simp [isHidden_of_isControl control] at shown
    simp [visible]

/-- The quote that closes a text is not taken for part of it. -/
theorem ne_quote (h : StandsFor c cs) : cs ++ rest ≠ '"' :: rest' := by
  cases h with
  | letter => simp
  | number => simp
  | itself shown noQuote => simp [noQuote]

/-- What stands for one character neither stands for another nor begins what does. -/
theorem unique (h : StandsFor c cs) (h' : StandsFor d ds) (same : cs ++ rest = ds ++ rest') :
    c = d ∧ rest = rest' := by
  have letters_ne_u : ∀ entry ∈ letters, entry.2 ≠ 'u' := by decide
  cases h with
  | letter listed =>
    cases h' with
    | letter listed' =>
      have apart : ∀ entry ∈ letters, ∀ entry' ∈ letters,
          entry.2 = entry'.2 → entry.1 = entry'.1 := by decide
      obtain ⟨letter, rest⟩ := List.cons.inj (List.tail_eq_of_cons_eq same)
      exact ⟨apart _ listed _ listed' letter, rest⟩
    | number =>
      obtain ⟨letter, -⟩ := List.cons.inj (List.tail_eq_of_cons_eq same)
      exact absurd letter (letters_ne_u _ listed)
    | itself shown noQuote noBackslash =>
      exact absurd (List.head_eq_of_cons_eq same).symm noBackslash
  | number hidden =>
    cases h' with
    | letter listed =>
      obtain ⟨letter, -⟩ := List.cons.inj (List.tail_eq_of_cons_eq same)
      exact absurd letter.symm (letters_ne_u _ listed)
    | number =>
      simp only [List.cons_append, List.append_assoc, List.nil_append, List.cons.injEq,
        true_and] at same
      obtain ⟨digits, rest⟩ := Numeral.toChars_append_brace_inj same
      have number := congrArg Numeral.value digits
      rw [Numeral.value_ofNat, Numeral.value_ofNat] at number
      exact ⟨Char.toNat_inj.mp number, rest⟩
    | itself shown noQuote noBackslash =>
      exact absurd (List.head_eq_of_cons_eq same).symm noBackslash
  | itself shown noQuote noBackslash =>
    cases h' with
    | letter => exact absurd (List.head_eq_of_cons_eq same) noBackslash
    | number => exact absurd (List.head_eq_of_cons_eq same) noBackslash
    | itself => exact List.cons.inj same

end StandsFor

theorem toList_quoted (text : String) :
    (quoted text).toList = '"' :: text.toList.flatMap quotedChar ++ ['"'] := String.toList_ofList

theorem noControls_quoted (text : String) : NoControls (quoted text).toList := by
  have quote : ¬IsControl '"' := by decide
  have inner : NoControls (text.toList.flatMap quotedChar) := by
    intro c mem
    obtain ⟨d, -, mem⟩ := List.mem_flatMap.mp mem
    exact (standsFor_quotedChar d).noControls c mem
  simp [toList_quoted, quote, inner]

theorem flatMap_quotedChar_inj
    (h : cs.flatMap quotedChar ++ '"' :: rest = ds.flatMap quotedChar ++ '"' :: rest') :
    cs = ds ∧ rest = rest' := by
  induction cs generalizing ds with
  | nil =>
    cases ds with
    | nil => exact ⟨rfl, List.tail_eq_of_cons_eq h⟩
    | cons d ds =>
      rw [List.flatMap_cons, List.append_assoc] at h
      exact absurd h.symm (standsFor_quotedChar d).ne_quote
  | cons c cs ih =>
    rw [List.flatMap_cons, List.append_assoc] at h
    cases ds with
    | nil => exact absurd h (standsFor_quotedChar c).ne_quote
    | cons d ds =>
      rw [List.flatMap_cons, List.append_assoc] at h
      obtain ⟨rfl, later⟩ := (standsFor_quotedChar c).unique (standsFor_quotedChar d) h
      obtain ⟨rfl, rest⟩ := ih later
      exact ⟨rfl, rest⟩

/-- A text can be read off its quoted form, whatever follows. -/
theorem quoted_append_inj {text text' : String}
    (h : (quoted text).toList ++ rest = (quoted text').toList ++ rest') :
    text = text' ∧ rest = rest' := by
  simp only [toList_quoted, List.cons_append, List.append_assoc, List.nil_append, List.cons.injEq,
    true_and] at h
  obtain ⟨same, rest⟩ := flatMap_quotedChar_inj h
  exact ⟨String.toList_inj.mp same, rest⟩

end Text

end UploadMessages
