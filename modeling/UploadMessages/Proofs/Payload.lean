import UploadMessages.Payload
import UploadMessages.Proofs.Json.Integers
import UploadMessages.Proofs.Json.Soundness

/-! # What makes a payload

A text writes a payload if it is a JSON text of an object in which the last
member of each key is null or of the declared kind. Nothing else about the text
counts: the checks of kinds read the last members only.
-/

namespace UploadMessages

/-- Whether a value is a text, a truth value or a number without fraction and exponent that a
word of the declared width holds. -/
def Kind.Declares : Kind → Json.Value → Prop
  | .text, v => ∃ s, v = .text s
  | .flag, v => ∃ b, v = .boolean b
  | .integer bits, v => ∃ l, v = .number l ∧ l.IsPlain ∧ ∃ n : Signed bits, n.value = l.integer

/-- The number `-0` is a double and no integer. -/
def Json.Value.IsMinusZero (v : Json.Value) : Prop :=
  ∃ l, v = .number l ∧ l.IsPlain ∧ l.IsMinusZero

def Kind.Takes (kind : Kind) (v : Json.Value) : Prop := kind.Declares v ∧ ¬v.IsMinusZero

namespace Kind

/-- The widths of integers that literals can denote. -/
def IsNarrow : Kind → Prop
  | .integer bits => bits ≤ 64
  | _ => True

theorem signed_bounds {bits : Nat} (narrow : bits ≤ 64) (n : Signed bits) :
    -(Json.Literal.negativeBound : Int) ≤ n.value ∧ n.value < Json.Literal.bound := by
  have widest : Signed.bound bits ≤ Json.Literal.negativeBound :=
    Nat.pow_le_pow_right Nat.two_pos (by omega)
  have wider : Json.Literal.negativeBound ≤ Json.Literal.bound := by decide
  have least := n.least_le
  have most := n.lt_bound
  omega

theorem toInt?_eq_of_signed {bits : Nat} (narrow : bits ≤ 64) {l : Json.Literal} {n : Signed bits}
    (plain : l.IsPlain) (notMinusZero : ¬l.IsMinusZero) (h : n.value = l.integer) :
    l.toInt? = some n.value := by
  obtain ⟨least, most⟩ := signed_bounds narrow n
  exact Json.Literal.toInt?_eq_some_iff.mpr ⟨plain, notMinusZero, h, least, most⟩

theorem accept?_integer {bits : Nat} {v : Json.Value} {n : Signed bits}
    (h : accept? (.integer bits) v = some n) : ∃ l, v = .number l ∧ l.toInt? = some n.value := by
  cases v <;> simp only [accept?, reduceCtorEq] at h
  case number l =>
    obtain ⟨m, hm, hn⟩ := Option.bind_eq_some_iff.mp h
    exact ⟨l, rfl, by rw [hm, Signed.value_of_ofInt? hn]⟩

/-- What is accepted for a kind is what it takes. -/
theorem accept?_isSome_iff {kind : Kind} (narrow : kind.IsNarrow) {v : Json.Value} :
    (kind.accept? v).isSome ↔ kind.Takes v := by
  cases kind with
  | text => cases v <;> simp [accept?, Takes, Declares, Json.Value.IsMinusZero]
  | flag => cases v <;> simp [accept?, Takes, Declares, Json.Value.IsMinusZero]
  | integer bits =>
    constructor
    · intro h
      obtain ⟨n, hn⟩ := Option.isSome_iff_exists.mp h
      obtain ⟨l, rfl, denotes⟩ := accept?_integer hn
      obtain ⟨plain, notMinusZero, value, -⟩ := Json.Literal.toInt?_eq_some_iff.mp denotes
      refine ⟨⟨l, rfl, plain, n, value⟩, ?_⟩
      rintro ⟨l', hl', -, minusZero⟩
      cases hl'
      exact notMinusZero minusZero
    · rintro ⟨⟨l, rfl, plain, n, value⟩, notMinusZero⟩
      have denotes := toInt?_eq_of_signed narrow plain
        (fun minusZero => notMinusZero ⟨l, rfl, plain, minusZero⟩) value
      simp [accept?, denotes, Signed.ofInt?_value]

end Kind

namespace Payload

/-- The last member of a key is of a kind or a null, or there is none. -/
def TypedAt (members : Json.Members) (key : Key) (kind : Kind) : Prop :=
  ∀ v, members.last? key.name = some v → v = .null ∨ kind.Takes v

def Typed (schema : Schema) (members : Json.Members) : Prop :=
  ∀ entry ∈ schema, TypedAt members entry.1 entry.2

theorem mistyped?_eq_none_iff {members : Json.Members} {key : Key} {kind : Kind}
    (narrow : kind.IsNarrow) :
    mistyped? members key kind = none ↔ TypedAt members key kind := by
  unfold mistyped? TypedAt
  split
  · rename_i absent
    simp [absent]
  · rename_i null
    simp [null]
  · rename_i v notNull present
    have isNull : v ≠ .null := by
      rintro rfl
      exact notNull rfl
    have takes := Kind.accept?_isSome_iff narrow (v := v)
    split
    · rename_i accepted
      simp [present, isNull, ← takes, accepted]
    · rename_i refused
      simp [present, isNull, ← takes, refused]

/-- What is wrong is the last value, if there is one that is neither a null nor accepted. -/
theorem mistyped?_eq_some_iff {members : Json.Members} {key : Key} {kind : Kind} {fault : Fault} :
    mistyped? members key kind = some fault ↔ ∃ v, members.last? key.name = some v ∧ v ≠ .null ∧
      kind.accept? v = none ∧ fault = .mistyped (.ofValue v) kind := by
  unfold mistyped?
  split
  · rename_i absent
    simp [absent]
  · rename_i null
    simp [null]
  · rename_i v notNull present
    have isNull : v ≠ .null := by
      rintro rfl
      exact notNull rfl
    split
    · rename_i accepted
      simp [present, accepted]
    · rename_i refused
      simp [present, isNull, refused, eq_comm]

theorem field?_of_last {members : Json.Members} {key : Key} {kind : Kind} {v : Json.Value}
    (last : members.last? key.name = some v) : field? members key kind = kind.accept? v := by
  rw [field?, last]
  rfl

def firstMistyped? (schema : Schema) (members : Json.Members) : Option Fault :=
  schema.findSome? fun (key, kind) => mistyped? members key kind

theorem firstMistyped?_eq_none_iff {schema : Schema} {members : Json.Members}
    (narrow : ∀ entry ∈ schema, entry.2.IsNarrow) :
    firstMistyped? schema members = none ↔ Typed schema members := by
  rw [firstMistyped?, List.findSome?_eq_none_iff]
  constructor
  · intro h entry hentry
    exact (mistyped?_eq_none_iff (narrow entry hentry)).mp (h entry hentry)
  · intro h entry hentry
    exact (mistyped?_eq_none_iff (narrow entry hentry)).mpr (h entry hentry)

theorem not_blank_of_isTextOf {v : Json.Value} {cs : List Char} (h : Json.IsTextOf v cs) :
    cs.all Text.isBlank = false := by
  obtain ⟨before, body, after, -, spelled, -, rfl⟩ := h
  obtain ⟨c, hc, rest, rfl⟩ := Json.State.spelling_begins spelled
  have noneBlank : Json.State.starters.any Text.isBlank = false := rfl
  have notBlank : Text.isBlank c = false := by simpa using List.any_eq_false.mp noneBlank c hc
  simp [notBlank]

/-- A text of an object is a payload unless one of the kinds is wrong. -/
theorem members_of_isTextOf {schema : Schema} {text : String} {ms : Json.Members}
    (h : Json.IsTextOf (.object ms) text.toList) :
    members schema text = match firstMistyped? schema ms with
      | some fault => .error fault
      | none => .ok ms := by
  simp only [members, not_blank_of_isTextOf h, Json.read_of_isTextOf h]
  rfl

theorem isTextOf_of_members {schema : Schema} {text : String} {ms : Json.Members}
    (h : members schema text = .ok ms) : Json.IsTextOf (.object ms) text.toList := by
  unfold members at h
  split at h
  · cases h
  split at h
  · cases h
  · rename_i read
    split at h
    · cases h
    · cases h
      exact Json.read_eq_ok_iff.mp read
  · cases h

theorem members_eq_ok_iff {schema : Schema} {text : String} {ms : Json.Members}
    (narrow : ∀ entry ∈ schema, entry.2.IsNarrow) :
    members schema text = .ok ms ↔
      Json.IsTextOf (.object ms) text.toList ∧ Typed schema ms := by
  constructor
  · intro h
    have object := isTextOf_of_members h
    refine ⟨object, (firstMistyped?_eq_none_iff narrow).mp ?_⟩
    rw [members_of_isTextOf object] at h
    split at h
    · cases h
    · assumption
  · rintro ⟨object, typed⟩
    rw [members_of_isTextOf object, (firstMistyped?_eq_none_iff narrow).mpr typed]

end Payload

end UploadMessages
