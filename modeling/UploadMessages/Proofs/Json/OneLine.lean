import UploadMessages.Proofs.Json.Writer
import UploadMessages.Proofs.Text.Order
import UploadMessages.Text.Characters

/-! # Records are written in one line

A text stays in one line if its characters are those from U+0020 to U+007F, with white space in
its string literals only. A string literal lasts from a quote to the next one that is not
escaped, so whatever the grammar allows between its quotes lies inside of it.
-/

namespace UploadMessages.Json

/-- Where a reader stands in a text: outside of its string literals, inside of one, or inside of
one after a backslash. -/
inductive Side
  | outside
  | inside
  | escaped
deriving DecidableEq

namespace Side

def next : Side → Char → Side
  | .outside, c => if c = '"' then .inside else .outside
  | .inside, c => if c = '"' then .outside else if c = '\\' then .escaped else .inside
  | .escaped, _ => .inside

def after (side : Side) (cs : List Char) : Side := cs.foldl next side

/-- The characters that are met outside of string literals; the quotes that open one are of them. -/
def bare : Side → List Char → List Char
  | _, [] => []
  | side, c :: later =>
    if side = .outside then c :: bare (side.next c) later else bare (side.next c) later

theorem after_append (side : Side) (cs ds : List Char) :
    side.after (cs ++ ds) = (side.after cs).after ds := List.foldl_append

theorem bare_append (side : Side) (cs ds : List Char) :
    side.bare (cs ++ ds) = side.bare cs ++ (side.after cs).bare ds := by
  induction cs generalizing side with
  | nil => rfl
  | cons c cs ih =>
    simp only [List.cons_append, bare, ih]
    split <;> rfl

end Side

structure StaysInside (cs : List Char) : Prop where
  after : Side.inside.after cs = .inside
  bare : Side.inside.bare cs = []

namespace StaysInside

theorem append {cs ds : List Char} (h : StaysInside cs) (h' : StaysInside ds) :
    StaysInside (cs ++ ds) where
  after := by rw [Side.after_append, h.after, h'.after]
  bare := by rw [Side.bare_append, h.bare, h.after, h'.bare, List.append_nil]

theorem ordinary {cs : List Char} (h : ∀ c ∈ cs, c ≠ '"' ∧ c ≠ '\\') : StaysInside cs := by
  induction cs with
  | nil => exact ⟨rfl, rfl⟩
  | cons c cs ih =>
    obtain ⟨⟨notQuote, notBackslash⟩, others⟩ := List.forall_mem_cons.mp h
    have stays : Side.inside.next c = .inside := by simp [Side.next, notQuote, notBackslash]
    obtain ⟨after, bare⟩ := ih others
    refine ⟨?_, ?_⟩
    · rw [Side.after, List.foldl_cons, stays]
      exact after
    · rw [Side.bare, if_neg (by decide), stays, bare]

theorem escape (l : Char) : StaysInside ['\\', l] := ⟨rfl, rfl⟩

theorem unit {unit : Nat} {cs : List Char} (h : UnitSpelling unit cs) :
    StaysInside ('\\' :: 'u' :: cs) := by
  obtain ⟨-, digits, read, -⟩ := h
  refine (escape 'u').append (ordinary fun c mem => ?_)
  obtain ⟨d, digit⟩ := Numeral.exists_of_mem_ofChars? read c mem
  constructor
  · rintro rfl
    cases digit
  · rintro rfl
    cases digit

/-- No spelling of a character ends the literal that it stands in. -/
theorem char {c : Char} {cs : List Char} (h : CharSpelling c cs) : StaysInside cs := by
  cases h with
  | raw visible notQuote notBackslash =>
    exact ordinary (List.forall_mem_singleton.mpr ⟨notQuote, notBackslash⟩)
  | letter => exact escape _
  | unit digits => exact unit digits
  | pair highDigits lowDigits => exact (unit highDigits).append (unit lowDigits)

theorem text {s cs : List Char} (h : TextSpelling s cs) : StaysInside cs := by
  induction h with
  | nil => exact ⟨rfl, rfl⟩
  | snoc _ last ih => exact ih.append (char last)

end StaysInside

def IsLineChar (c : Char) : Prop := 0x20 ≤ c.toNat ∧ c.toNat ≤ 0x7f

instance (c : Char) : Decidable (IsLineChar c) := inferInstanceAs (Decidable (_ ∧ _))

def IsBare (c : Char) : Prop := IsLineChar c ∧ c ≠ '"' ∧ Text.isBlank c = false

instance (c : Char) : Decidable (IsBare c) := inferInstanceAs (Decidable (_ ∧ _ ∧ _))

/-- A text of line characters without white space outside of its string literals, which are all
closed. -/
structure OneLine (cs : List Char) : Prop where
  lineChars : ∀ c ∈ cs, IsLineChar c
  closed : Side.outside.after cs = .outside
  tight : ∀ c ∈ Side.outside.bare cs, Text.isBlank c = false

namespace OneLine

theorem nil : OneLine [] := ⟨List.forall_mem_nil _, rfl, List.forall_mem_nil _⟩

theorem append {cs ds : List Char} (h : OneLine cs) (h' : OneLine ds) : OneLine (cs ++ ds) where
  lineChars := List.forall_mem_append.mpr ⟨h.lineChars, h'.lineChars⟩
  closed := by rw [Side.after_append, h.closed, h'.closed]
  tight := by
    rw [Side.bare_append, h.closed]
    exact List.forall_mem_append.mpr ⟨h.tight, h'.tight⟩

theorem singleton {c : Char} (h : IsBare c) : OneLine [c] where
  lineChars := List.forall_mem_singleton.mpr h.1
  closed := by simp [Side.after, Side.next, h.2.1]
  tight := by simp [Side.bare, h.2.2]

theorem of_bare {cs : List Char} (h : ∀ c ∈ cs, IsBare c) : OneLine cs := by
  induction cs with
  | nil => exact nil
  | cons c cs ih =>
    obtain ⟨first, others⟩ := List.forall_mem_cons.mp h
    exact (singleton first).append (ih others)

/-- In a string literal spaces do no harm. -/
theorem literal {cs : List Char} (lineChars : ∀ c ∈ cs, IsLineChar c) (inside : StaysInside cs) :
    OneLine ('"' :: cs ++ ['"']) where
  lineChars := by
    have quote : IsLineChar '"' := by decide
    exact List.forall_mem_append.mpr
      ⟨List.forall_mem_cons.mpr ⟨quote, lineChars⟩, List.forall_mem_singleton.mpr quote⟩
  closed := by
    change Side.inside.after (cs ++ ['"']) = _
    rw [Side.after_append, inside.after]
    rfl
  tight := by
    have bare : Side.outside.bare ('"' :: cs ++ ['"']) = ['"'] := by
      change '"' :: Side.inside.bare (cs ++ ['"']) = _
      rw [Side.bare_append, inside.bare, inside.after]
      rfl
    rw [bare]
    exact List.forall_mem_singleton.mpr (by decide)

end OneLine

theorem isLineChar_hexadecimal (d : Digit 16) : IsLineChar d.char := by
  revert d; decide

theorem isLineChar_of_shortEscape? {c l : Char} (h : shortEscape? c = some l) : IsLineChar l := by
  unfold shortEscape? at h
  repeat' split at h
  all_goals cases h
  all_goals decide

/-- Characters below U+0020 are escaped, and those of one byte end at U+007F. -/
theorem isLineChar_writtenChar {c : Char} (narrow : c.utf8Size = 1) :
    ∀ d ∈ writtenChar c, IsLineChar d := by
  have ascii : c.toNat ≤ 0x7f := Char.utf8Size_eq_one_iff.mp narrow
  have backslash : IsLineChar '\\' := by decide
  unfold writtenChar
  split
  · rename_i l short
    have letter := isLineChar_of_shortEscape? short
    exact List.forall_mem_cons.mpr ⟨backslash, List.forall_mem_singleton.mpr letter⟩
  · split
    · have u : IsLineChar 'u' := by decide
      refine List.forall_mem_cons.mpr ⟨backslash, List.forall_mem_cons.mpr ⟨u, fun d mem => ?_⟩⟩
      obtain ⟨digit, -, rfl⟩ := List.mem_map.mp mem
      exact isLineChar_hexadecimal digit
    · rename_i visible
      exact List.forall_mem_singleton.mpr ⟨Nat.not_lt.mp visible, ascii⟩

theorem oneLine_writtenText {s : String} (narrow : Text.Narrow s.toList) :
    OneLine (writtenText s) := by
  refine .literal (fun c mem => ?_) (.text (textSpelling_flatMap s.toList))
  obtain ⟨d, dMem, mem⟩ := List.mem_flatMap.mp mem
  exact isLineChar_writtenChar (narrow d dMem) c mem

theorem oneLine_toChars (ds : Numeral 10) : OneLine ds.toChars := by
  have digit : ∀ d : Digit 10, IsBare d.char := by decide
  refine .of_bare fun c mem => ?_
  obtain ⟨d, -, rfl⟩ := List.mem_map.mp mem
  exact digit d

theorem oneLine_ofInt (n : Int) : OneLine (Numeral.ofInt n) := by
  unfold Numeral.ofInt
  dsimp only
  split
  · exact (OneLine.singleton (by decide)).append (oneLine_toChars _)
  · exact oneLine_toChars _

def ScalarNarrow : Scalar → Prop
  | .text s => Text.Narrow s.toList
  | _ => True

theorem oneLine_writtenScalar {s : Scalar} (narrow : ScalarNarrow s) :
    OneLine (writtenScalar s) := by
  cases s with
  | text s => exact oneLine_writtenText narrow
  | flag b =>
    apply OneLine.of_bare
    cases b <;>
    · simp only [writtenScalar, List.mem_cons, List.not_mem_nil, or_false, forall_eq_or_imp,
        forall_eq]
      decide
  | integer n => exact oneLine_ofInt n

def Record.Narrow (r : Record) : Prop :=
  ∀ member ∈ r, Text.Narrow member.1.toList ∧ ScalarNarrow member.2

namespace Record

theorem oneLine_writtenMember {member : String × Scalar} (key : Text.Narrow member.1.toList)
    (value : ScalarNarrow member.2) : OneLine (writtenMember member) := by
  have colon : OneLine [':'] := .singleton (by decide)
  exact (oneLine_writtenText key).append (colon.append (oneLine_writtenScalar value))

theorem oneLine_writtenMembers {r : Record} (narrow : r.Narrow) : OneLine r.writtenMembers := by
  induction r with
  | nil => exact .nil
  | cons member later ih =>
    obtain ⟨⟨key, value⟩, others⟩ := List.forall_mem_cons.mp narrow
    have first := oneLine_writtenMember key value
    cases later with
    | nil => exact first
    | cons member' later =>
      have comma : OneLine [','] := .singleton (by decide)
      exact first.append (comma.append (ih others))

theorem oneLine_written {r : Record} (narrow : r.Narrow) : OneLine r.written := by
  have opening : OneLine ['\x7b'] := .singleton (by decide)
  have closing : OneLine ['\x7d'] := .singleton (by decide)
  exact (opening.append (oneLine_writtenMembers narrow)).append closing

theorem oneLine_toString {r : Record} (narrow : r.Narrow) : OneLine r.toString.toList := by
  rw [toString, String.toList_ofList]
  exact oneLine_written narrow

end Record

end UploadMessages.Json
