/-! # Texts measured in UTF-8 bytes

Positions in a text are counted in bytes of its UTF-8 form. A cut at a byte
that lies inside a character, or past the end, does not exist.
-/

namespace UploadMessages.Text

def byteSize : List Char → Nat
  | [] => 0
  | c :: cs => c.utf8Size + byteSize cs

def cut (n : Nat) : List Char → Option (List Char × List Char)
  | [] => if n = 0 then some ([], []) else none
  | c :: cs =>
    if n = 0 then some ([], c :: cs)
    else if c.utf8Size ≤ n then
      match cut (n - c.utf8Size) cs with
      | some (before, after) => some (c :: before, after)
      | none => none
    else none

@[simp] theorem byteSize_nil : byteSize [] = 0 := rfl

@[simp] theorem byteSize_cons (c : Char) (cs : List Char) :
    byteSize (c :: cs) = c.utf8Size + byteSize cs := rfl

theorem byteSize_eq_zero_iff {cs : List Char} : byteSize cs = 0 ↔ cs = [] := by
  cases cs with
  | nil => simp
  | cons c cs =>
    have positive := c.utf8Size_pos
    rw [byteSize_cons]
    simp only [reduceCtorEq, iff_false]
    omega

theorem cut_zero_eq_some_iff {cs before after : List Char} :
    cut 0 cs = some (before, after) ↔ cs = before ++ after ∧ byteSize before = 0 := by
  have whole : cut 0 cs = some ([], cs) := by cases cs <;> rfl
  rw [whole, byteSize_eq_zero_iff]
  constructor
  · intro same
    cases same
    exact ⟨rfl, rfl⟩
  · rintro ⟨rfl, rfl⟩
    rfl

theorem cut_cons_eq_some_iff {n : Nat} (h : n ≠ 0) {c : Char} {cs before after : List Char} :
    cut n (c :: cs) = some (before, after) ↔ c.utf8Size ≤ n ∧
      ∃ later, cut (n - c.utf8Size) cs = some (later, after) ∧ before = c :: later := by
  simp only [cut, h, if_false]
  by_cases fits : c.utf8Size ≤ n
  · cases cut (n - c.utf8Size) cs with
    | none => simp [fits]
    | some p =>
      obtain ⟨later, rest⟩ := p
      simp only [fits, if_true, Option.some.injEq, Prod.mk.injEq, true_and]
      constructor
      · rintro ⟨rfl, rfl⟩
        exact ⟨later, ⟨rfl, rfl⟩, rfl⟩
      · rintro ⟨later', ⟨rfl, rfl⟩, rfl⟩
        exact ⟨rfl, rfl⟩
  · simp [fits]

/-- A cut loses nothing and measures what it takes. -/
theorem cut_eq_some_iff {n : Nat} {cs before after : List Char} :
    cut n cs = some (before, after) ↔ cs = before ++ after ∧ byteSize before = n := by
  induction cs generalizing n before with
  | nil =>
    by_cases h : n = 0
    · rw [h, cut_zero_eq_some_iff]
    · rw [cut, if_neg h]
      constructor
      · intro same
        cases same
      · rintro ⟨whole, rfl⟩
        exact absurd (byteSize_eq_zero_iff.mpr (List.append_eq_nil_iff.mp whole.symm).1) h
  | cons c cs ih =>
    by_cases h : n = 0
    · rw [h, cut_zero_eq_some_iff]
    · rw [cut_cons_eq_some_iff h]
      constructor
      · rintro ⟨fits, later, found, rfl⟩
        obtain ⟨rfl, size⟩ := ih.mp found
        exact ⟨rfl, by rw [byteSize_cons]; omega⟩
      · rintro ⟨whole, size⟩
        cases before with
        | nil => exact absurd size.symm h
        | cons d later =>
          obtain ⟨rfl, rfl⟩ := List.cons.inj whole
          rw [byteSize_cons] at size
          exact ⟨by omega, later, ih.mpr ⟨rfl, by omega⟩, rfl⟩

end UploadMessages.Text
