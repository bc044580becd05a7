import Mathlib.Data.List.Induction
import UploadMessages.Text.Bytes
import UploadMessages.Text.Numeral

/-! # Numerals and the characters that write them

Digits are told from each other and from all other characters by how they are
written, so a numeral is found again in its text.
-/

namespace UploadMessages

namespace Text

@[simp] theorem byteSize_append (cs ds : List Char) :
    byteSize (cs ++ ds) = byteSize cs + byteSize ds := by
  induction cs with
  | nil => simp
  | cons c cs ih => simp [ih, Nat.add_assoc]

theorem length_le_byteSize (cs : List Char) : cs.length ≤ byteSize cs := by
  induction cs with
  | nil => simp
  | cons c cs ih =>
    have := c.utf8Size_pos
    simp only [List.length_cons, byteSize_cons]
    omega

end Text

namespace Digit

/-- Every character that is a digit in some base is one byte long. -/
theorem utf8Size_of_ofChar? {b : Nat} {c : Char} {d : Digit b}
    (h : ofChar? b c = some d) : c.utf8Size = 1 := by
  have ascii : c.val ≤ 0x7f := by
    unfold ofChar? weight? at h
    split at h
    · cases h
    · rename_i n hn
      split at hn
      · rename_i hc
        exact UInt32.le_trans hc.2 (by decide)
      · split at hn
        · rename_i hc
          exact UInt32.le_trans hc.2 (by decide)
        · split at hn
          · rename_i hc
            exact UInt32.le_trans hc.2 (by decide)
          · cases hn
  simp [Char.utf8Size, ascii]

/-- A decimal digit is written in one way only. -/
theorem eq_char_of_ofChar? {c : Char} {d : Digit 10} (h : ofChar? 10 c = some d) : c = d.char := by
  unfold ofChar? weight? at h
  split at h
  · cases h
  · rename_i n hn
    split at h
    · rename_i small
      obtain rfl := Option.some.inj h
      split at hn
      · rename_i hc
        obtain rfl := Option.some.inj hn
        have low : 48 ≤ c.toNat := hc.1
        simp [char, small, Nat.add_sub_cancel' low]
      · split at hn
        · rename_i hc
          have low : 97 ≤ c.toNat := hc.1
          have := Option.some.inj hn
          omega
        · split at hn
          · rename_i hc
            have low : 65 ≤ c.toNat := hc.1
            have := Option.some.inj hn
            omega
          · cases hn
    · cases h

end Digit

namespace Numeral

variable {b : Nat}

@[simp] theorem toChars_nil : toChars ([] : Numeral b) = [] := rfl

@[simp] theorem toChars_cons (d : Digit b) (ds : Numeral b) :
    toChars (d :: ds) = d.char :: toChars ds := rfl

@[simp] theorem toChars_append (ds es : Numeral b) :
    toChars (ds ++ es) = toChars ds ++ toChars es := List.map_append

theorem ofChars?_cons {c : Char} {cs : List Char} {ds : Numeral b} :
    ofChars? b (c :: cs) = some ds ↔
      ∃ e es, Digit.ofChar? b c = some e ∧ ofChars? b cs = some es ∧ ds = e :: es := by
  simp only [ofChars?, List.mapM_cons, Option.pure_def, Option.bind_eq_bind,
    Option.bind_eq_some_iff, Option.some.injEq]
  constructor
  · rintro ⟨e, he, es, hes, rfl⟩
    exact ⟨e, es, he, hes, rfl⟩
  · rintro ⟨e, es, he, hes, rfl⟩
    exact ⟨e, he, es, hes, rfl⟩

theorem exists_of_mem_ofChars? {cs : List Char} {ds : Numeral b}
    (h : ofChars? b cs = some ds) : ∀ c ∈ cs, ∃ d, Digit.ofChar? b c = some d := by
  induction cs generalizing ds with
  | nil => exact List.forall_mem_nil _
  | cons c cs ih =>
    obtain ⟨d, ds, hd, hds, rfl⟩ := ofChars?_cons.mp h
    exact List.forall_mem_cons.mpr ⟨⟨d, hd⟩, ih hds⟩

theorem byteSize_of_ofChars? {cs : List Char} {ds : Numeral b} (h : ofChars? b cs = some ds) :
    Text.byteSize cs = cs.length := by
  induction cs generalizing ds with
  | nil => rfl
  | cons c cs ih =>
    obtain ⟨e, es, he, hes, -⟩ := ofChars?_cons.mp h
    rw [Text.byteSize_cons, Digit.utf8Size_of_ofChar? he, ih hes, List.length_cons]
    omega

theorem ofChars?_toChars (digits : Numeral 16) : ofChars? 16 digits.toChars = some digits := by
  induction digits with
  | nil => rfl
  | cons d ds ih =>
    rw [toChars_cons]
    exact ofChars?_cons.mpr ⟨d, ds, Digit.ofChar?_char_hexadecimal d, ih, rfl⟩

theorem written_room [h : Base b] {room room' n : Nat} (later : Numeral b) (enough : n < room)
    (enough' : n < room') : written room n later = written room' n later := by
  induction room generalizing room' n later with
  | zero => omega
  | succ room ih =>
    obtain ⟨room', rfl⟩ := Nat.exists_eq_add_one_of_ne_zero (Nat.ne_zero_of_lt enough')
    simp only [written]
    split
    · rfl
    · have smaller : n / b < n := Nat.div_lt_self (by have := h.two_le; omega) h.two_le
      exact ih _ (by omega) (by omega)

theorem ofNat_of_lt [Base b] {n : Nat} (h : n < b) : ofNat b n = [.last b n] := by
  simp [ofNat, written, h]

/-- A number of several digits has the digits of its quotient by the base before its last. -/
theorem ofNat_of_le [h : Base b] {n : Nat} (large : b ≤ n) :
    ofNat b n = ofNat b (n / b) ++ [.last b n] := by
  have smaller : n / b < n := Nat.div_lt_self (by have := h.two_le; omega) h.two_le
  have first : ofNat b n = written n (n / b) [.last b n] := by
    simp [ofNat, written, Nat.not_lt.mpr large]
  rw [first, written_eq_append, ofNat, written_room [] smaller (Nat.lt_succ_self _)]

theorem ofNat_ne_nil [Base b] (n : Nat) : ofNat b n ≠ [] := by
  rcases Nat.lt_or_ge n b with small | large
  · simp [ofNat_of_lt small]
  · simp [ofNat_of_le large]

theorem exists_head_ofNat [h : Base b] {n : Nat} (positive : 0 < n) :
    ∃ d ds, ofNat b n = d :: ds ∧ 0 < d.val := by
  induction n using Nat.strongRecOn with
  | ind n ih =>
    rcases Nat.lt_or_ge n b with small | large
    · exact ⟨.last b n, [], ofNat_of_lt small, by simpa [Digit.last, Nat.mod_eq_of_lt small]⟩
    · have smaller : n / b < n := Nat.div_lt_self positive h.two_le
      have still : 0 < n / b := Nat.div_pos large (Nat.lt_of_lt_of_le Nat.two_pos h.two_le)
      obtain ⟨d, ds, hd, hpos⟩ := ih (n / b) smaller still
      exact ⟨d, ds ++ [.last b n], by rw [ofNat_of_le large, hd, List.cons_append], hpos⟩

theorem last_value [Base b] (n : Nat) (d : Digit b) : Digit.last b (n * b + d.val) = d := by
  apply Fin.ext
  simp [Digit.last, Nat.mod_eq_of_lt d.isLt]

theorem value_cons_pos [h : Base b] {d : Digit b} (ds : Numeral b) (leads : 0 < d.val) :
    0 < value (d :: ds) := by
  induction ds using List.reverseRecOn with
  | nil => simpa [value] using leads
  | append_singleton es e ih =>
    have positive : 0 < b := Nat.lt_of_lt_of_le Nat.two_pos h.two_le
    rw [← List.cons_append, value_append_singleton]
    exact Nat.add_pos_left (Nat.mul_pos ih positive) e.val

/-- Digits that do not begin with zero are those of their number. -/
theorem ofNat_value_cons [Base b] {d : Digit b} (ds : Numeral b) (leads : 0 < d.val) :
    ofNat b (value (d :: ds)) = d :: ds := by
  induction ds using List.reverseRecOn with
  | nil =>
    have small : value [d] = d.val := by simp [value]
    rw [small, ofNat_of_lt d.isLt]
    simp [Digit.last, Nat.mod_eq_of_lt d.isLt]
  | append_singleton es e ih =>
    have positive := value_cons_pos es leads
    have quotient : (value (d :: es) * b + e.val) / b = value (d :: es) := by
      rw [Nat.mul_comm, Nat.mul_add_div (Nat.lt_of_le_of_lt (Nat.zero_le _) e.isLt),
        Nat.div_eq_of_lt e.isLt, Nat.add_zero]
    have large : b ≤ value (d :: es) * b + e.val :=
      Nat.le_trans (Nat.le_mul_of_pos_left b positive) (Nat.le_add_right _ _)
    rw [← List.cons_append, value_append_singleton, ofNat_of_le large, quotient, ih, last_value]

end Numeral

end UploadMessages
