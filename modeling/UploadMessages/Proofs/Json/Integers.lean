import UploadMessages.Proofs.Json.Grammar
import UploadMessages.Proofs.Text.Numerals

/-! # Integers and their literals

A literal of digits alone denotes an integer, of which the grammar has one
spelling. Only `-0` and what does not fit 64 bits are left to the doubles.
-/

namespace UploadMessages.Json

theorem isWhole_ofNat (n : Nat) : IsWhole (Numeral.ofNat 10 n) := by
  refine ⟨Numeral.ofNat_ne_nil n, fun leading => ?_⟩
  rcases Nat.eq_zero_or_pos n with rfl | positive
  · rfl
  · obtain ⟨d, ds, hd, leads⟩ := Numeral.exists_head_ofNat (b := 10) positive
    rw [hd] at leading
    obtain rfl : d = 0 := by simpa using leading
    cases leads

theorem IsWhole.ofNat_value {digits : Numeral 10} (h : IsWhole digits) :
    Numeral.ofNat 10 digits.value = digits := by
  obtain ⟨nonempty, leading⟩ := h
  obtain ⟨d, ds, rfl⟩ := List.exists_cons_of_ne_nil nonempty
  rcases Nat.eq_zero_or_pos d.val with zero | leads
  · obtain rfl : d = 0 := Fin.ext zero
    obtain rfl : ds = [] := by simpa using leading rfl
    rfl
  · exact Numeral.ofNat_value_cons ds leads

theorem IsWhole.eq_of_value_eq {digits digits' : Numeral 10} (h : IsWhole digits)
    (h' : IsWhole digits') (same : digits.value = digits'.value) : digits = digits' := by
  rw [← h.ofNat_value, ← h'.ofNat_value, same]

namespace Literal

def integer (l : Literal) : Int := if l.negative then -(l.whole.value : Int) else l.whole.value

/-- The literal `-0`, with any number of zeros. -/
def IsMinusZero (l : Literal) : Prop := l.negative = true ∧ l.whole.value = 0

instance (l : Literal) : Decidable l.IsMinusZero := inferInstanceAs (Decidable (_ ∧ _))

theorem toInt?_eq_some_iff {l : Literal} {n : Int} :
    l.toInt? = some n ↔ l.IsPlain ∧ ¬l.IsMinusZero ∧ n = l.integer ∧
      -(negativeBound : Int) ≤ n ∧ n < bound := by
  obtain ⟨negative, whole, fraction, power⟩ := l
  unfold toInt?
  split
  · rename_i plain
    cases negative <;> simp only [plain, IsMinusZero, integer, Bool.false_eq_true, if_false,
      if_true, false_and, not_false_eq_true, true_and]
    · split <;> simp <;> omega
    · split <;> simp <;> omega
  · rename_i notPlain
    simp [notPlain]

/-- No two literals of the grammar denote one integer. -/
theorem eq_of_toInt?_eq {l l' : Literal} {n : Int} (whole : IsWhole l.whole)
    (whole' : IsWhole l'.whole) (h : l.toInt? = some n) (h' : l'.toInt? = some n) : l = l' := by
  obtain ⟨negative, digits, fraction, power⟩ := l
  obtain ⟨negative', digits', fraction', power'⟩ := l'
  obtain ⟨⟨rfl, rfl⟩, notMinusZero, hn, -⟩ := toInt?_eq_some_iff.mp h
  obtain ⟨⟨rfl, rfl⟩, notMinusZero', hn', -⟩ := toInt?_eq_some_iff.mp h'
  have same : negative = negative' ∧ digits.value = digits'.value := by
    simp only [IsMinusZero, integer] at notMinusZero notMinusZero' hn hn'
    cases negative <;> cases negative' <;>
      simp only [Bool.false_eq_true, if_false, if_true, true_and, reduceCtorEq, false_and] at * <;>
      omega
  obtain rfl := same.1
  obtain rfl := whole.eq_of_value_eq whole' same.2
  rfl

/-- A literal of digits alone has one spelling. -/
theorem spelling_of_isPlain {l : Literal} {cs : List Char} (h : LiteralSpelling l cs)
    (plain : l.IsPlain) : cs = signSpelling l.negative ++ l.whole.toChars := by
  obtain ⟨negative, whole, fraction, power⟩ := l
  obtain ⟨rfl, rfl⟩ := plain
  obtain ⟨-, fraction, power⟩ := h
  cases fraction with
  | absent =>
    cases power
    simp
  | present nonempty => exact absurd rfl nonempty

theorem integer_ofInt (n : Int) : (ofInt n).integer = n := by
  by_cases negative : n < 0
  · simp only [integer, ofInt, negative, decide_true, if_true, Numeral.value_ofNat]
    omega
  · simp only [integer, ofInt, negative, decide_false, Bool.false_eq_true,
      if_false, Numeral.value_ofNat]
    omega

theorem not_isMinusZero_ofInt (n : Int) : ¬(ofInt n).IsMinusZero := by
  rintro ⟨negative, zero⟩
  simp only [ofInt, decide_eq_true_eq, Numeral.value_ofNat] at negative zero
  omega

theorem toInt?_ofInt {n : Int} (least : -(negativeBound : Int) ≤ n) (most : n < bound) :
    (ofInt n).toInt? = some n :=
  toInt?_eq_some_iff.mpr
    ⟨⟨rfl, rfl⟩, not_isMinusZero_ofInt n, (integer_ofInt n).symm, least, most⟩

theorem literalSpelling_ofInt (n : Int) : LiteralSpelling (ofInt n) (Numeral.ofInt n) := by
  have spelled := LiteralSpelling.intro (l := ofInt n) (isWhole_ofNat n.natAbs) .absent .absent
  by_cases negative : n < 0
  · simpa [ofInt, Numeral.ofInt, signSpelling, negative] using spelled
  · simpa [ofInt, Numeral.ofInt, signSpelling, negative] using spelled

/-- A literal of an integer is spelled as the integer is written. -/
theorem spelling_of_toInt? {l : Literal} {cs : List Char} {n : Int} (h : LiteralSpelling l cs)
    (denotes : l.toInt? = some n) : cs = Numeral.ofInt n := by
  obtain ⟨plain, -, -, least, most⟩ := toInt?_eq_some_iff.mp denotes
  have whole : IsWhole l.whole := by
    obtain ⟨whole, -, -⟩ := h
    exact whole
  have same : l = ofInt n :=
    eq_of_toInt?_eq whole (isWhole_ofNat n.natAbs) denotes (toInt?_ofInt least most)
  rw [spelling_of_isPlain h plain, same]
  exact (spelling_of_isPlain (literalSpelling_ofInt n) ⟨rfl, rfl⟩).symm

end Literal

end UploadMessages.Json
