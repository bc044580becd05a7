/-! # Digits and numerals

A numeral in base `b` is the list of its digits, the most significant first.
Leading zeros are kept, so a numeral says more than the number that it denotes;
`ofNat` gives the one numeral of a number that has none to spare.
-/

namespace UploadMessages

/-- A number that can be the base of numerals. -/
class Base (b : Nat) : Prop where
  two_le : 2 ≤ b

instance : Base 10 := ⟨by decide⟩

instance : Base 16 := ⟨by decide⟩

abbrev Digit (b : Nat) := Fin b

namespace Digit

def last (b : Nat) [h : Base b] (n : Nat) : Digit b :=
  ⟨n % b, Nat.mod_lt n (Nat.lt_of_lt_of_le Nat.two_pos h.two_le)⟩

/-- Letters are the digits from ten on, in lower case. -/
def char {b : Nat} (d : Digit b) : Char :=
  if d.val < 10 then Char.ofNat (48 + d.val) else Char.ofNat (87 + d.val)

/-- The number that a character stands for as a digit; letters count in either case. -/
def weight? (c : Char) : Option Nat :=
  if '0' ≤ c ∧ c ≤ '9' then some (c.toNat - 48)
  else if 'a' ≤ c ∧ c ≤ 'f' then some (c.toNat - 87)
  else if 'A' ≤ c ∧ c ≤ 'F' then some (c.toNat - 55)
  else none

def ofChar? (b : Nat) (c : Char) : Option (Digit b) :=
  match weight? c with
  | none => none
  | some n => if h : n < b then some ⟨n, h⟩ else none

theorem ofChar?_char_decimal (d : Digit 10) : ofChar? 10 d.char = some d := by
  revert d; decide

theorem ofChar?_char_hexadecimal (d : Digit 16) : ofChar? 16 d.char = some d := by
  revert d; decide

end Digit

abbrev Numeral (b : Nat) := List (Digit b)

namespace Numeral

variable {b : Nat}

def value (ds : Numeral b) : Nat := ds.foldl (fun n d => n * b + d.val) 0

/-- The digits of `n` written before those of `later`, at most `room` of them. -/
def written [Base b] : (room n : Nat) → (later : Numeral b) → Numeral b
  | 0, _, later => later
  | room + 1, n, later =>
    if n < b then .last b n :: later else written room (n / b) (.last b n :: later)

/-- A number has fewer digits than its successor counts, so the room never runs out. -/
def ofNat (b : Nat) [Base b] (n : Nat) : Numeral b := written (n + 1) n []

/-- The last `width` digits of `n`, with zeros in front where it has fewer. -/
def padded (b : Nat) [Base b] : (width n : Nat) → Numeral b
  | 0, _ => []
  | width + 1, n => padded b width (n / b) ++ [.last b n]

def toChars (ds : Numeral b) : List Char := ds.map Digit.char

def ofChars? (b : Nat) (cs : List Char) : Option (Numeral b) := cs.mapM (Digit.ofChar? b)

/-- The number that decimal digits write; without digits, zero. -/
def decimal? (cs : List Char) : Option Nat := (ofChars? 10 cs).map value

theorem value_append_singleton (ds : Numeral b) (d : Digit b) :
    value (ds ++ [d]) = value ds * b + d.val := by
  simp [value, List.foldl_append]

theorem written_eq_append [Base b] (room n : Nat) (later : Numeral b) :
    written room n later = written room n [] ++ later := by
  induction room generalizing n later with
  | zero => rfl
  | succ room ih =>
    unfold written
    split
    · rfl
    · rw [ih, ih (n / b) [.last b n], List.append_assoc]
      rfl

theorem value_written [h : Base b] {room n : Nat} (enough : n < room) :
    value (written room n ([] : Numeral b)) = n := by
  induction room generalizing n with
  | zero => omega
  | succ room ih =>
    unfold written
    split
    · rename_i small
      simp [value, Digit.last, Nat.mod_eq_of_lt small]
    · rename_i large
      have smaller : n / b < n := Nat.div_lt_self (by have := h.two_le; omega) h.two_le
      rw [written_eq_append, value_append_singleton, ih (by omega)]
      exact Nat.div_add_mod' n b

theorem value_ofNat [Base b] (n : Nat) : value (ofNat b n) = n := value_written n.lt_succ_self

theorem length_padded [Base b] (width n : Nat) : (padded b width n).length = width := by
  induction width generalizing n with
  | zero => rfl
  | succ width ih => simp [padded, ih]

/-- A number is cut to the width in which it is written. -/
theorem value_padded [Base b] (width n : Nat) :
    value (padded b width n) = n % Nat.pow b width := by
  induction width generalizing n with
  | zero => exact (Nat.mod_one n).symm
  | succ width ih =>
    have split : Nat.pow b (width + 1) = b * Nat.pow b width := Nat.mul_comm _ _
    rw [padded, value_append_singleton, ih, split, Nat.mod_mul, Nat.mul_comm, Nat.add_comm]
    rfl

/-- An integer in decimal, with a sign if it is negative. -/
def ofInt (n : Int) : List Char :=
  let magnitude := (ofNat 10 n.natAbs).toChars
  if n < 0 then '-' :: magnitude else magnitude

end Numeral

end UploadMessages
