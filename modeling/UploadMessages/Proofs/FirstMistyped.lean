import UploadMessages.Proofs.Inbound
import UploadMessages.Proofs.Text.Order

/-! # Which value of a wrong kind is reported

Of the keys whose last values are of a wrong kind the least in the order of the names is
reported, with its value and the kind that is wanted. The order of the members makes no
difference, nor do values that are replaced, keys that are not declared and fields that are
wrong in another way.
-/

namespace UploadMessages

open Json (IsTextOf Literal Members)

theorem Kind.message_integer (bits : Nat) : (integer bits).message = "i" ++ toString bits := by
  rw [message, Numeral.toChars_ofNat, ← Nat.toString_eq_ofList_toDigits]

namespace Payload

inductive Called : Kind → String → Prop
  | text : Called .text "a string"
  | flag : Called .flag "a boolean"
  | integer (bits : Nat) : Called (.integer bits) ("i" ++ toString bits)

/-- How a value is described. A number is an integer if it denotes one, and a double otherwise. -/
inductive Described : Json.Value → String → Prop
  | boolean (b : Bool) : Described (.boolean b) ("boolean `" ++ toString b ++ "`")
  | integer {l : Literal} {n : Int} (denotes : l.toInt? = some n) :
    Described (.number l) ("integer `" ++ toString n ++ "`")
  | floatingPoint {l : Literal} (denotesNone : l.toInt? = none) :
    Described (.number l) ("floating point `" ++ Decimal.floatingPoint l.negative l.magnitude ++ "`")
  | text (s : String) : Described (.text s) ("string " ++ Text.quoted s)
  | list (items : List Json.Value) : Described (.list items) "sequence"
  | object (members : Members) : Described (.object members) "map"

/-- What is said of a value where another kind is wanted. An integer in the place of another has
the right type, so its value is wrong. -/
inductive Reason : Kind → Json.Value → String → Prop
  | wrongValue {bits : Nat} {l : Literal} {n : Int} {found wanted : String}
    (denotes : l.toInt? = some n) (described : Described (.number l) found)
    (called : Called (.integer bits) wanted) :
    Reason (.integer bits) (.number l) ("invalid value: " ++ found ++ ", expected " ++ wanted)
  | wrongType {kind : Kind} {v : Json.Value} {found wanted : String}
    (other : ∀ bits l n, kind = .integer bits → v = .number l → l.toInt? ≠ some n)
    (described : Described v found) (called : Called kind wanted) :
    Reason kind v ("invalid type: " ++ found ++ ", expected " ++ wanted)

theorem called_message (kind : Kind) : Called kind kind.message := by
  cases kind with
  | text => exact .text
  | flag => exact .flag
  | integer bits =>
    rw [Kind.message_integer]
    exact .integer bits

theorem Found.ofValue_eq_integer_iff {v : Json.Value} {n : Int} :
    ofValue v = .integer n ↔ ∃ l, v = .number l ∧ l.toInt? = some n := by
  cases v with
  | number l => cases denotes : l.toInt? <;> simp [ofValue, denotes]
  | _ => simp [ofValue]

theorem Found.message_integer (n : Int) :
    (integer n).message = "integer `" ++ String.ofList (Numeral.ofInt n) ++ "`" := rfl

theorem described_message {v : Json.Value} (notNull : v ≠ .null) :
    Described v (Found.ofValue v).message := by
  cases v with
  | null => exact absurd rfl notNull
  | boolean b => cases b <;> exact .boolean _
  | number l =>
    cases denotes : l.toInt? with
    | none =>
      simp only [Found.ofValue, denotes]
      exact .floatingPoint denotes
    | some n =>
      rw [Found.ofValue_eq_integer_iff.mpr ⟨l, rfl, denotes⟩, Found.message_integer,
        Numeral.ofList_ofInt]
      exact .integer denotes
  | text s => exact .text s
  | list items => exact .list items
  | object members => exact .object members

theorem reason_message (kind : Kind) {v : Json.Value} (notNull : v ≠ .null) :
    Reason kind v (Fault.mistyped (.ofValue v) kind).message := by
  have described := described_message notNull
  have called := called_message kind
  have other (h : ∀ bits n, kind = .integer bits → Found.ofValue v ≠ .integer n) :
      ∀ bits l n, kind = .integer bits → v = .number l → l.toInt? ≠ some n :=
    fun bits l n wanted number denotes =>
      h bits n wanted (Found.ofValue_eq_integer_iff.mpr ⟨l, number, denotes⟩)
  cases found : Found.ofValue v with
  | integer n =>
    obtain ⟨l, rfl, denotes⟩ := Found.ofValue_eq_integer_iff.mp found
    rw [found] at described other
    cases kind with
    | integer bits => exact .wrongValue denotes described called
    | _ => exact .wrongType (other (by simp)) described called
  | _ =>
    rw [found] at described other
    exact .wrongType (other (by simp)) described called

structure Mistyped (ms : Members) (key : Key) (kind : Kind) (v : Json.Value) : Prop where
  last : ms.last? key.name = some v
  notNull : v ≠ .null
  wrong : ¬kind.Takes v

/-- Of the keys with a value of a wrong kind, one comes before all others in the order of the
bytes of the names. -/
structure LeastMistyped (schema : Schema) (ms : Members) (key : Key) (kind : Kind)
    (v : Json.Value) : Prop where
  declared : (key, kind) ∈ schema
  mistyped : Mistyped ms key kind v
  least : ∀ key' kind' v', (key', kind') ∈ schema → Mistyped ms key' kind' v' →
    key' = key ∨ Text.Precedes key.name key'.name

variable {schema : Schema} {ms : Members} {key : Key} {kind : Kind} {v : Json.Value}

theorem mistyped?_eq_some_iff_mistyped (narrow : kind.IsNarrow) {fault : Fault} :
    mistyped? ms key kind = some fault ↔
      ∃ v, Mistyped ms key kind v ∧ fault = .mistyped (.ofValue v) kind := by
  have refused (v : Json.Value) : kind.accept? v = none ↔ ¬kind.Takes v := by
    rw [← Kind.accept?_isSome_iff narrow, Option.not_isSome_iff_eq_none]
  simp only [mistyped?_eq_some_iff, refused]
  constructor
  · rintro ⟨v, last, notNull, wrong, same⟩
    exact ⟨v, ⟨last, notNull, wrong⟩, same⟩
  · rintro ⟨v, ⟨last, notNull, wrong⟩, same⟩
    exact ⟨v, last, notNull, wrong, same⟩

/-- The search from the front finds the least key, as a schema is in the order of the names. -/
theorem firstMistyped?_eq_some_iff
    (ordered : schema.Pairwise fun a b => Text.Precedes a.1.name b.1.name)
    (narrow : ∀ entry ∈ schema, entry.2.IsNarrow) {fault : Fault} :
    firstMistyped? schema ms = some fault ↔
      ∃ key kind v, LeastMistyped schema ms key kind v ∧ fault = .mistyped (.ofValue v) kind := by
  rw [firstMistyped?, List.findSome?_eq_some_iff]
  constructor
  · rintro ⟨front, ⟨key, kind⟩, back, rfl, found, fine⟩
    obtain ⟨v, mistyped, rfl⟩ :=
      (mistyped?_eq_some_iff_mistyped (narrow (key, kind) (by simp))).mp found
    refine ⟨key, kind, v, ⟨by simp, mistyped, fun key' kind' v' declared mistyped' => ?_⟩, rfl⟩
    rcases List.mem_append.mp declared with earlier | later
    · have found' := (mistyped?_eq_some_iff_mistyped (narrow _ declared)).mpr ⟨v', mistyped', rfl⟩
      cases (fine _ earlier).symm.trans found'
    · rcases List.mem_cons.mp later with same | later
      · exact .inl (congrArg Prod.fst same)
      · exact .inr (List.rel_of_pairwise_cons (List.pairwise_append.mp ordered).2.1 later)
  · rintro ⟨key, kind, v, ⟨declared, mistyped, least⟩, rfl⟩
    obtain ⟨front, back, rfl⟩ := List.append_of_mem declared
    refine ⟨front, (key, kind), back, rfl, ?_, fun entry earlier => ?_⟩
    · exact (mistyped?_eq_some_iff_mistyped (narrow _ declared)).mpr ⟨v, mistyped, rfl⟩
    · have isDeclared : entry ∈ front ++ (key, kind) :: back := List.mem_append_left _ earlier
      have before : Text.Precedes entry.1.name key.name :=
        (List.pairwise_append.mp ordered).2.2 entry earlier (key, kind) List.mem_cons_self
      refine Option.eq_none_iff_forall_ne_some.mpr fun fault found => ?_
      obtain ⟨v', mistyped', -⟩ := (mistyped?_eq_some_iff_mistyped (narrow _ isDeclared)).mp found
      rcases least entry.1 entry.2 v' isDeclared mistyped' with same | after
      · rw [same] at before
        exact before.asymm before
      · exact before.asymm after

end Payload

theorem Inbound.schema_precedes (kind : Inbound) :
    kind.schema.Pairwise fun a b => Text.Precedes a.1.name b.1.name := by
  cases kind <;> decide +kernel

/-- Where a key has a last value of a wrong kind, there is a least such key, and the text is
rejected for its value and for nothing else. -/
theorem least_mistyped_is_reported {kind : Inbound} {text : String} {ms : Members}
    (writes : IsTextOf (.object ms) text.toList)
    (wrong : ∃ key type v, (key, type) ∈ kind.schema ∧ Payload.Mistyped ms key type v) :
    (∃ key type v, Payload.LeastMistyped kind.schema ms key type v) ∧
    ∀ key type v, Payload.LeastMistyped kind.schema ms key type v → ∃ fault,
      kind.ofJson text = .reject (.malformedPayload fault) (.payloadRejected fault) ∧
        Payload.Reason type v fault.message := by
  have narrow := kind.isNarrow_of_mem_schema
  have first {fault : Payload.Fault} :=
    @Payload.firstMistyped?_eq_some_iff kind.schema ms kind.schema_precedes narrow fault
  constructor
  · obtain ⟨key, type, v, declared, mistyped⟩ := wrong
    cases found : Payload.firstMistyped? kind.schema ms with
    | none =>
      have typed := (Payload.firstMistyped?_eq_none_iff narrow).mp found _ declared v mistyped.last
      exact absurd typed (not_or.mpr ⟨mistyped.notNull, mistyped.wrong⟩)
    | some fault =>
      obtain ⟨key, type, v, least, -⟩ := first.mp found
      exact ⟨key, type, v, least⟩
  · intro key type v least
    refine ⟨.mistyped (.ofValue v) type, ?_, Payload.reason_message type least.mistyped.notNull⟩
    rw [Inbound.ofJson_of_isTextOf writes, first.mpr ⟨key, type, v, least, rfl⟩]

def confusedText : String :=
  "\x7b\"statusDescription\":[],\"statusCode\":\"7\",\"correlationId\":\"\",\"x\":\x7b\x7d, " ++
    "\"statusCode\":2147483648\x7d"

def confusedMembers : Members :=
  [("statusDescription", .list []), ("statusCode", .text "7"), ("correlationId", .text ""),
   ("x", .object []), ("statusCode", .number (.ofInt 2147483648))]

/-- The code is reported, which comes last in the text and is too large by one. -/
theorem least_mistyped_is_reported_confusedText :
    Payload.LeastMistyped Inbound.statusReport.schema confusedMembers .statusCode
      (.integer 32) (.number (.ofInt 2147483648)) ∧
    ∃ fault, Inbound.statusReport.ofJson confusedText =
      .reject (.malformedPayload fault) (.payloadRejected fault) ∧
      Payload.Reason (.integer 32) (.number (.ofInt 2147483648)) fault.message := by
  have writes : IsTextOf (.object confusedMembers) confusedText.toList :=
    Json.read_eq_ok_iff.mp (by rfl)
  have refused : ¬(Kind.integer 32).Takes (.number (.ofInt 2147483648)) := by
    rw [← Kind.accept?_isSome_iff (by simp [Kind.IsNarrow])]
    decide +kernel
  have mistyped : Payload.Mistyped confusedMembers .statusCode (.integer 32)
      (.number (.ofInt 2147483648)) := ⟨rfl, by simp, refused⟩
  have declared : (Key.statusCode, Kind.integer 32) ∈ Inbound.statusReport.schema := by decide
  have least : Payload.LeastMistyped Inbound.statusReport.schema confusedMembers .statusCode
      (.integer 32) (.number (.ofInt 2147483648)) := by
    refine ⟨declared, mistyped, fun key kind v declared' mistyped' => ?_⟩
    have others : ∀ entry ∈ Inbound.statusReport.schema, entry = (.correlationId, .text) ∨
        entry = (.isSuccess, .flag) ∨ entry.1 = .statusCode ∨
        Text.Precedes Key.statusCode.name entry.1.name := by
      decide +kernel
    rcases others _ declared' with isId | isFlag | least
    · cases isId
      cases mistyped'.last
      exact absurd ⟨⟨"", rfl⟩, by simp [Json.Value.IsMinusZero]⟩ mistyped'.wrong
    · cases isFlag
      cases mistyped'.last
    · exact least
  exact ⟨least, (least_mistyped_is_reported writes ⟨_, _, _, declared, mistyped⟩).2 _ _ _ least⟩

end UploadMessages
