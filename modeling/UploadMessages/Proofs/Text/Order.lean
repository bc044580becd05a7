import Mathlib.Data.List.Lex
import UploadMessages.Field
import UploadMessages.Proofs.Text.Numerals

/-! # The order of texts

Texts are compared byte by byte. Of texts whose characters have one byte each the
order is that of the characters, and numbers that are written with equally many
digits are in the order of their numerals.
-/

namespace UploadMessages

namespace Text

def bytes (text : String) : List UInt8 := text.toUTF8.data.toList

/-- Whether a text comes before another in the order of bytes. -/
def Precedes (text text' : String) : Prop := List.Lex (· < ·) (bytes text) (bytes text')

theorem bytes_eq_flatMap (text : String) :
    bytes text = text.toList.flatMap String.utf8EncodeChar := by
  rw [bytes, String.toUTF8_eq_toByteArray, ← String.utf8Encode_toList, List.utf8Encode,
    List.toList_data_toByteArray]

theorem byteSize_toList (text : String) : byteSize text.toList = text.utf8ByteSize := by
  have size (cs : List Char) : byteSize cs = (cs.flatMap String.utf8EncodeChar).length := by
    induction cs with
    | nil => rfl
    | cons c cs ih => simp [ih]
  rw [size, ← bytes_eq_flatMap, bytes, Array.length_toList]
  rfl

def Narrow (cs : List Char) : Prop := ∀ c ∈ cs, c.utf8Size = 1

theorem byteSize_of_narrow {cs : List Char} (h : Narrow cs) : byteSize cs = cs.length := by
  induction cs with
  | nil => rfl
  | cons c cs ih =>
    obtain ⟨hc, hcs⟩ := List.forall_mem_cons.mp h
    rw [byteSize_cons, hc, ih hcs, List.length_cons, Nat.add_comm]

theorem narrow_of_byteSize {cs : List Char} (h : byteSize cs = cs.length) : Narrow cs := by
  induction cs with
  | nil => exact List.forall_mem_nil _
  | cons c cs ih =>
    have first := c.utf8Size_pos
    have others := length_le_byteSize cs
    rw [byteSize_cons, List.length_cons] at h
    exact List.forall_mem_cons.mpr ⟨by omega, ih (by omega)⟩

/-- A text with as many bytes as characters has no character of more than one byte. -/
theorem narrow_toList_iff {text : String} :
    Narrow text.toList ↔ text.utf8ByteSize = text.length := by
  rw [← byteSize_toList, ← String.length_toList]
  exact ⟨byteSize_of_narrow, narrow_of_byteSize⟩

/-- A text that a message may hold: it is not empty, and each character has one byte. -/
def Plain (text : String) : Prop := text ≠ "" ∧ Narrow text.toList

theorem byte_lt_iff {c d : Char} (hc : c.utf8Size = 1) (hd : d.utf8Size = 1) :
    c.val.toUInt8 < d.val.toUInt8 ↔ c < d := by
  have hc : c.val.toNat ≤ 127 := Char.utf8Size_eq_one_iff.mp hc
  have hd : d.val.toNat ≤ 127 := Char.utf8Size_eq_one_iff.mp hd
  rw [Char.lt_def, UInt8.lt_iff_toNat_lt, UInt32.lt_iff_toNat_lt, UInt32.toNat_toUInt8,
    UInt32.toNat_toUInt8]
  omega

theorem byte_eq_iff {c d : Char} (hc : c.utf8Size = 1) (hd : d.utf8Size = 1) :
    c.val.toUInt8 = d.val.toUInt8 ↔ c = d := by
  have hc : c.val.toNat ≤ 127 := Char.utf8Size_eq_one_iff.mp hc
  have hd : d.val.toNat ≤ 127 := Char.utf8Size_eq_one_iff.mp hd
  rw [Char.ext_iff, ← UInt8.toNat_inj, ← UInt32.toNat_inj, UInt32.toNat_toUInt8,
    UInt32.toNat_toUInt8]
  omega

theorem lex_bytes_iff {cs ds : List Char} (hc : Narrow cs) (hd : Narrow ds) :
    List.Lex (· < ·) (cs.flatMap String.utf8EncodeChar) (ds.flatMap String.utf8EncodeChar) ↔
      List.Lex (· < ·) cs ds := by
  induction cs generalizing ds with
  | nil =>
    cases ds with
    | nil => simp
    | cons d ds =>
      have hd := (List.forall_mem_cons.mp hd).1
      simp [String.utf8EncodeChar_eq_singleton hd]
  | cons c cs ih =>
    obtain ⟨hc, hcs⟩ := List.forall_mem_cons.mp hc
    cases ds with
    | nil => simp
    | cons d ds =>
      obtain ⟨hd, hds⟩ := List.forall_mem_cons.mp hd
      simp only [List.flatMap_cons, String.utf8EncodeChar_eq_singleton hc,
        String.utf8EncodeChar_eq_singleton hd, List.singleton_append, List.cons_lex_cons_iff,
        byte_lt_iff hc hd, byte_eq_iff hc hd, ih hcs hds]

instance (text text' : String) : Decidable (Precedes text text') :=
  inferInstanceAs (Decidable (List.Lex _ _ _))

theorem Precedes.asymm {text text' : String} (h : Precedes text text') : ¬Precedes text' text :=
  (List.Lex.asymm (· < · : UInt8 → UInt8 → Prop)).asymm _ _ h

theorem precedes_iff {text text' : String} (h : Narrow text.toList) (h' : Narrow text'.toList) :
    Precedes text text' ↔ List.Lex (· < ·) text.toList text'.toList := by
  rw [Precedes, bytes_eq_flatMap, bytes_eq_flatMap, lex_bytes_iff h h']

theorem flatMap_of_narrow {cs : List Char} (h : Narrow cs) :
    cs.flatMap String.utf8EncodeChar = cs.map Char.toUInt8 := by
  induction cs with
  | nil => rfl
  | cons c cs ih =>
    obtain ⟨hc, hcs⟩ := List.forall_mem_cons.mp h
    rw [List.flatMap_cons, String.utf8EncodeChar_eq_singleton hc, ih hcs]
    rfl

theorem isFirstByte_of_narrow {c : Char} (h : c.utf8Size = 1) : c.toUInt8.IsUTF8FirstByte := by
  have first := @UInt8.isUTF8FirstByte_getElem_zero_utf8EncodeChar c
  simp only [String.utf8EncodeChar_eq_singleton h] at first
  exact first

/-- Of the bytes of a character only the first begins one. Where all bytes but the first of a text
begin characters, each character has one byte. -/
theorem narrow_of_firstBytes {cs : List Char} {first : UInt8} {later : List UInt8}
    (bytes : cs.flatMap String.utf8EncodeChar = first :: later)
    (begin : ∀ b ∈ later, b.IsUTF8FirstByte) : Narrow cs := by
  induction cs generalizing first later with
  | nil => exact List.forall_mem_nil _
  | cons c cs ih =>
    have start {i : Nat} (hi : i < (String.utf8EncodeChar c).length) :=
      @UInt8.isUTF8FirstByte_getElem_utf8EncodeChar c i hi
    have size := String.length_utf8EncodeChar c
    rw [List.flatMap_cons] at bytes
    generalize String.utf8EncodeChar c = encoded at bytes start size
    match encoded with
    | [] => exact absurd size.symm (Nat.ne_of_gt c.utf8Size_pos)
    | [_] =>
      obtain ⟨-, same⟩ := List.cons.inj bytes
      refine List.forall_mem_cons.mpr ⟨size.symm, ?_⟩
      cases later with
      | nil =>
        cases cs with
        | nil => exact List.forall_mem_nil _
        | cons d ds => simp [String.utf8EncodeChar_ne_nil] at same
      | cons b bs => exact ih same (List.forall_mem_cons.mp begin).2
    | _ :: b :: bs =>
      obtain ⟨-, rfl⟩ := List.cons.inj bytes
      have second : 1 = 0 := (start (by simp)).mp (begin b (by simp))
      cases second

theorem eq_of_map_byte_eq {cs ds : List Char} (hc : Narrow cs) (hd : Narrow ds)
    (same : cs.map Char.toUInt8 = ds.map Char.toUInt8) : cs = ds := by
  induction cs generalizing ds with
  | nil => exact (List.map_eq_nil_iff.mp same.symm).symm
  | cons c cs ih =>
    obtain ⟨d, ds, rfl, first, later⟩ := List.map_eq_cons_iff.mp same.symm
    obtain ⟨hc, hcs⟩ := List.forall_mem_cons.mp hc
    obtain ⟨hd, hds⟩ := List.forall_mem_cons.mp hd
    rw [(byte_eq_iff hc hd).mp first.symm, ih hcs hds later.symm]

/-- Whatever the first byte of a text is, it is a character if characters of one byte each
follow. -/
theorem bytes_eq_cons_iff {text : String} {first : UInt8} {later : List Char}
    (narrow : Narrow later) : bytes text = first :: later.map Char.toUInt8 ↔
      ∃ c : Char, c.utf8Size = 1 ∧ c.toUInt8 = first ∧ text.toList = c :: later := by
  rw [bytes_eq_flatMap]
  constructor
  · intro same
    have whole : Narrow text.toList := by
      refine narrow_of_firstBytes same fun b mem => ?_
      obtain ⟨c, isLater, rfl⟩ := List.mem_map.mp mem
      exact isFirstByte_of_narrow (narrow c isLater)
    rw [flatMap_of_narrow whole] at same
    obtain ⟨c, others, written, rfl, sameLater⟩ := List.map_eq_cons_iff.mp same
    rw [written] at whole ⊢
    obtain ⟨single, narrow'⟩ := List.forall_mem_cons.mp whole
    exact ⟨c, single, rfl, congrArg (c :: ·) (eq_of_map_byte_eq narrow' narrow sameLater)⟩
  · rintro ⟨c, single, rfl, written⟩
    rw [written, flatMap_of_narrow (List.forall_mem_cons.mpr ⟨single, narrow⟩), List.map_cons]

end Text

theorem FieldText.plain (t : FieldText) : Text.Plain t.text :=
  ⟨t.nonempty, Text.narrow_toList_iff.mpr t.singleByte⟩

namespace Digit

theorem narrow_char (d : Digit 10) : d.char.utf8Size = 1 := by
  revert d; decide

theorem char_lt_iff (d e : Digit 10) : d.char < e.char ↔ d < e := by
  revert d e; decide

theorem char_eq_iff (d e : Digit 10) : d.char = e.char ↔ d = e := by
  revert d e; decide

theorem isDigit_char (d : Digit 10) : d.char.isDigit = true := by
  revert d; decide

theorem toNat_char (d : Digit 10) : d.char.toNat - '0'.toNat = d.val := by
  revert d; decide

theorem exists_eq_char {c : Char} (h : c.isDigit = true) : ∃ d : Digit 10, c = d.char := by
  have bounds : 48 ≤ c.toNat ∧ c.toNat ≤ 57 := Char.isDigit_iff_toNat.mp h
  have small : c.toNat - 48 < 10 := by omega
  refine ⟨⟨c.toNat - 48, small⟩, ?_⟩
  simp only [char, small, if_true]
  rw [Nat.add_sub_cancel' bounds.1, Char.ofNat_toNat]

end Digit

namespace Numeral

theorem narrow_toChars (ds : Numeral 10) : Text.Narrow ds.toChars := by
  intro c mem
  obtain ⟨d, -, rfl⟩ := List.mem_map.mp mem
  exact d.narrow_char

theorem eq_toChars_of_ofChars? {cs : List Char} {ds : Numeral 10} (h : ofChars? 10 cs = some ds) :
    cs = ds.toChars := by
  induction cs generalizing ds with
  | nil =>
    cases h
    rfl
  | cons c cs ih =>
    obtain ⟨e, es, he, hes, rfl⟩ := ofChars?_cons.mp h
    rw [toChars_cons, ← Digit.eq_char_of_ofChar? he, ← ih hes]

theorem ofChars?_toChars_decimal (ds : Numeral 10) : ofChars? 10 ds.toChars = some ds := by
  induction ds with
  | nil => rfl
  | cons d ds ih => exact ofChars?_cons.mpr ⟨d, ds, Digit.ofChar?_char_decimal d, ih, rfl⟩

theorem value_lt {b : Nat} (ds : Numeral b) : value ds < Nat.pow b ds.length := by
  induction ds using List.reverseRecOn with
  | nil => exact Nat.one_pos
  | append_singleton es d ih =>
    have wider : Nat.pow b (es ++ [d]).length = Nat.pow b es.length * b := by
      rw [List.length_append]
      rfl
    rw [value_append_singleton, wider]
    calc value es * b + d.val < value es * b + b := Nat.add_lt_add_left d.isLt _
      _ = (value es + 1) * b := (Nat.succ_mul _ _).symm
      _ ≤ Nat.pow b es.length * b := Nat.mul_le_mul_right b ih

/-- Digits are those of their number, written as wide as they are. -/
theorem padded_value {b : Nat} [Base b] (ds : Numeral b) : padded b ds.length (value ds) = ds := by
  induction ds using List.reverseRecOn with
  | nil => rfl
  | append_singleton es d ih =>
    have quotient : (value es * b + d.val) / b = value es := by
      rw [Nat.mul_comm, Nat.mul_add_div (Nat.lt_of_le_of_lt (Nat.zero_le _) d.isLt),
        Nat.div_eq_of_lt d.isLt, Nat.add_zero]
    rw [List.length_append, List.length_singleton, padded, value_append_singleton, quotient, ih,
      last_value]

theorem decimal?_padded {width n : Nat} (h : n < Nat.pow 10 width) :
    decimal? (padded 10 width n).toChars = some n := by
  rw [decimal?, ofChars?_toChars_decimal, Option.map_some, value_padded]
  exact congrArg some (Nat.mod_eq_of_lt h)

/-- Decimal digits are those of the number that they write. -/
theorem eq_padded_of_decimal? (width : Nat) {cs : List Char} {n : Nat} (long : cs.length = width)
    (h : decimal? cs = some n) : n < Nat.pow 10 width ∧ cs = (padded 10 width n).toChars := by
  obtain ⟨ds, hds, rfl⟩ := Option.map_eq_some_iff.mp h
  obtain rfl := eq_toChars_of_ofChars? hds
  rw [toChars, List.length_map] at long
  rw [← long, padded_value]
  exact ⟨value_lt ds, rfl⟩

/-- What is read as a decimal is the text of a numeral, and has its value. -/
theorem decimal?_eq_some_iff {cs : List Char} {n : Nat} :
    decimal? cs = some n ↔ ∃ ds : Numeral 10, cs = ds.toChars ∧ n = ds.value := by
  constructor
  · intro h
    obtain ⟨ds, hds, rfl⟩ := Option.map_eq_some_iff.mp h
    exact ⟨ds, eq_toChars_of_ofChars? hds, rfl⟩
  · rintro ⟨ds, rfl, rfl⟩
    rw [decimal?, ofChars?_toChars_decimal, Option.map_some]

theorem value_lt_of_length_le {b width : Nat} [h : Base b] {ds : Numeral b}
    (narrow : ds.length ≤ width) : value ds < Nat.pow b width :=
  Nat.lt_of_lt_of_le (value_lt ds)
    (Nat.pow_le_pow_right (Nat.lt_of_lt_of_le Nat.two_pos h.two_le) narrow)

theorem isDigit_of_mem_toChars {ds : Numeral 10} {c : Char} (h : c ∈ ds.toChars) :
    c.isDigit = true := by
  obtain ⟨d, -, rfl⟩ := List.mem_map.mp h
  exact d.isDigit_char

theorem exists_eq_toChars {cs : List Char} (h : ∀ c ∈ cs, c.isDigit = true) :
    ∃ ds : Numeral 10, cs = ds.toChars := by
  induction cs with
  | nil => exact ⟨[], rfl⟩
  | cons c cs ih =>
    obtain ⟨hc, hcs⟩ := List.forall_mem_cons.mp h
    obtain ⟨d, rfl⟩ := Digit.exists_eq_char hc
    obtain ⟨ds, rfl⟩ := ih hcs
    exact ⟨d :: ds, rfl⟩

theorem value_eq_ofDigitChars (ds : Numeral 10) :
    ds.value = Nat.ofDigitChars 10 ds.toChars 0 := by
  rw [Nat.ofDigitChars_eq_foldl, toChars, List.foldl_map]
  simp only [Digit.toNat_char, Nat.mul_comm 10]
  rfl

theorem toChars_ofNat (n : Nat) : (ofNat 10 n).toChars = Nat.toDigits 10 n := by
  have digit : ∀ d : Digit 10, d.char = d.val.digitChar := by decide
  induction n using Nat.strongRecOn with
  | ind n ih =>
    rcases Nat.lt_or_ge n 10 with small | large
    · rw [ofNat_of_lt small, Nat.toDigits_of_lt_base small, toChars_cons, digit, toChars_nil,
        Digit.last]
      simp only [Nat.mod_eq_of_lt small]
    · rw [ofNat_of_le large, Nat.toDigits_of_base_le (by decide) large, toChars_append,
        ih (n / 10) (by omega), toChars_cons, digit]
      rfl

theorem ofList_ofInt (n : Int) : String.ofList (ofInt n) = toString n := by
  cases n with
  | ofNat m =>
    change String.ofList (ofInt m) = m.repr
    rw [ofInt, if_neg (by omega), Int.natAbs_natCast, toChars_ofNat, Nat.repr_eq_ofList_toDigits]
  | negSucc m =>
    change String.ofList (ofInt (Int.negSucc m)) = "-" ++ (m + 1).repr
    rw [ofInt, if_pos (Int.negSucc_lt_zero m), Int.natAbs_negSucc, toChars_ofNat,
      Nat.repr_eq_ofList_toDigits, ← String.toList_inj]
    simp

theorem lex_padded_append_iff {width n m : Nat} (hn : n < Nat.pow 10 width)
    (hm : m < Nat.pow 10 width) {rest rest' : List Char} :
    List.Lex (· < ·) ((padded 10 width n).toChars ++ rest) ((padded 10 width m).toChars ++ rest') ↔
      n < m ∨ n = m ∧ List.Lex (· < ·) rest rest' := by
  induction width generalizing n m rest rest' with
  | zero =>
    obtain rfl := Nat.lt_one_iff.mp hn
    obtain rfl := Nat.lt_one_iff.mp hm
    simp [padded]
  | succ width ih =>
    have split : Nat.pow 10 (width + 1) = Nat.pow 10 width * 10 := rfl
    simp only [padded, toChars_append, toChars_cons, toChars_nil, List.append_assoc,
      List.singleton_append]
    rw [ih (by omega) (by omega), List.cons_lex_cons_iff, Digit.char_lt_iff, Digit.char_eq_iff,
      Fin.lt_def, Fin.ext_iff]
    simp only [Digit.last]
    have less : n < m ↔ n / 10 < m / 10 ∨ n / 10 = m / 10 ∧ n % 10 < m % 10 := by omega
    have same : n = m ↔ n / 10 = m / 10 ∧ n % 10 = m % 10 := by omega
    rw [less, same, and_or_left, or_assoc, and_assoc]

theorem lex_padded_iff {width n m : Nat} (hn : n < Nat.pow 10 width) (hm : m < Nat.pow 10 width) :
    List.Lex (· < ·) (padded 10 width n).toChars (padded 10 width m).toChars ↔ n < m := by
  have nothing : ¬List.Lex (· < ·) ([] : List Char) [] := List.not_lex_nil
  have key := @lex_padded_append_iff width n m hn hm [] []
  simpa only [List.append_nil, nothing, and_false, or_false] using key

end Numeral

end UploadMessages
