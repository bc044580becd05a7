import UploadMessages.Json.Value
import UploadMessages.Proofs.Json.Integers
import UploadMessages.Proofs.Json.Soundness

/-! # What is written is a JSON text

A written record spells the object of its members, so it is read back whole. The
only condition is that its integers fit 64 bits, as those of every message do.
-/

namespace UploadMessages.Json

theorem letterEscape_of_shortEscape? {c l : Char} (h : shortEscape? c = some l) :
    LetterEscape l c := by
  unfold shortEscape? at h
  repeat' split at h
  all_goals cases h
  all_goals subst c
  · exact .quote
  · exact .backslash
  · exact .backspace
  · exact .formFeed
  · exact .lineFeed
  · exact .carriageReturn
  · exact .tab

theorem ne_of_shortEscape? {c : Char} (h : shortEscape? c = none) : c ≠ '"' ∧ c ≠ '\\' := by
  constructor <;> rintro rfl <;> cases h

/-- Every character is written as the grammar spells it. -/
theorem charSpelling_writtenChar (c : Char) : CharSpelling c (writtenChar c) := by
  unfold writtenChar
  split
  · rename_i l escape
    exact .letter (letterEscape_of_shortEscape? escape)
  · rename_i plain
    obtain ⟨notQuote, notBackslash⟩ := ne_of_shortEscape? plain
    split
    · rename_i control
      have digits : UnitSpelling c.toNat (Numeral.padded 16 4 c.toNat).toChars := by
        refine ⟨by simp [Numeral.toChars, Numeral.length_padded], _,
          Numeral.ofChars?_toChars _, ?_⟩
        rw [Numeral.value_padded]
        exact Nat.mod_eq_of_lt (Nat.lt_trans control (by decide))
      have spelled := CharSpelling.unit digits
        (fun high => absurd high.1 (by omega)) (fun low => absurd low.1 (by omega))
      rwa [Char.ofNat_toNat] at spelled
    · rename_i visible
      exact .raw (Nat.not_lt.mp visible) notQuote notBackslash

theorem textSpelling_flatMap (s : List Char) : TextSpelling s (s.flatMap writtenChar) := by
  induction s using List.reverseRecOn with
  | nil => exact .nil
  | append_singleton s c ih =>
    rw [List.flatMap_append, List.flatMap_singleton]
    exact .snoc ih (charSpelling_writtenChar c)

def ScalarFits : Scalar → Prop
  | .integer n => -(Literal.negativeBound : Int) ≤ n ∧ n < Literal.bound
  | _ => True

theorem spelling_scalar {room : Nat} {s : Scalar} (fits : ScalarFits s) :
    Spelling room (.value (.ofScalar s)) (writtenScalar s) := by
  cases s with
  | text s => exact .text (textSpelling_flatMap s.toList)
  | flag b =>
    cases b with
    | false => exact .false
    | true => exact .true
  | integer n =>
    have denotes := Literal.toInt?_ofInt fits.1 fits.2
    refine .number (Literal.literalSpelling_ofInt n) fun overflows => ?_
    rw [overflows.1] at denotes
    cases denotes

theorem keySpelling_written (key : String) : KeySpelling key (writtenText key ++ [':']) := by
  simpa [writtenText] using
    KeySpelling.intro (textSpelling_flatMap key.toList) isGap_nil isGap_nil

theorem writtenMember_eq (member : String × Scalar) :
    Record.writtenMember member = [] ++ (writtenText member.1 ++ [':']) ++
      writtenScalar member.2 ++ [] := by
  simp [Record.writtenMember]

theorem spelling_member {room : Nat} {member : String × Scalar} (fits : ScalarFits member.2) :
    Spelling room (.members [(member.1, .ofScalar member.2)]) (Record.writtenMember member) := by
  rw [writtenMember_eq]
  exact .firstMember isGap_nil (keySpelling_written member.1) (spelling_scalar fits) isGap_nil

theorem spelling_members {room : Nat} (r : Record) (nonempty : r ≠ [])
    (fits : ∀ member ∈ r, ScalarFits member.2) :
    Spelling room (.members r.toMembers) r.writtenMembers := by
  induction r with
  | nil => exact absurd rfl nonempty
  | cons member later ih =>
    have first : Spelling room (.members [(member.1, .ofScalar member.2)])
        (Record.writtenMember member) := spelling_member (fits member List.mem_cons_self)
    cases later with
    | nil => exact first
    | cons member' later =>
      have rest := ih (by simp) fun m hm => fits m (List.mem_cons_of_mem member hm)
      exact spelling_members_append first rest

/-- A written record is a JSON text of its members. -/
theorem isTextOf_written (r : Record) (fits : ∀ member ∈ r, ScalarFits member.2) :
    IsTextOf (.object r.toMembers) r.written := by
  have body : Spelling 127 (.value (.object r.toMembers)) r.written := by
    cases r with
    | nil => exact .emptyObject isGap_nil
    | cons member later => exact .object (spelling_members _ (by simp) fits)
  exact ⟨[], r.written, [], isGap_nil, body, isGap_nil, by simp⟩

theorem Record.isTextOf_toString (r : Record) (fits : ∀ member ∈ r, ScalarFits member.2) :
    IsTextOf (.object r.toMembers) r.toString.toList := by
  rw [toString, String.toList_ofList]
  exact isTextOf_written r fits

end UploadMessages.Json
