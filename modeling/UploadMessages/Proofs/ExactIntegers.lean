import Mathlib.Algebra.Group.Int.Defs
import UploadMessages.Proofs.FaultOrder
import UploadMessages.Proofs.FirstMistyped
import UploadMessages.Proofs.Json.Slots
import UploadMessages.Proofs.Json.Writer

/-! # Integers are exact

Two keys hold integers. Whatever literal stands in the place of an accepted one, the integer that
it writes is held, to the last digit, or the payload is malformed. No literal is rounded to an
integer, and none is cut to a width.
-/

namespace UploadMessages

open Json (IsTextOf Literal LiteralSpelling Members Slot)

theorem Signed.cast_bound (bits : Nat) : (bound bits : Int) = (2 : Int) ^ (bits - 1) :=
  Int.natCast_pow 2 (bits - 1)

/-- A literal writes an integer that a word of so many bits holds. The literal `-0` writes none. -/
structure Json.Literal.Fits (l : Literal) (bits : Nat) : Prop where
  plain : l.IsPlain
  notMinusZero : ¬l.IsMinusZero
  least_le : -(2 : Int) ^ (bits - 1) ≤ l.integer
  lt_bound : l.integer < (2 : Int) ^ (bits - 1)

namespace Json.Literal.Fits

variable {l : Literal} {bits : Nat}

theorem exists_signed (h : l.Fits bits) : ∃ n : Signed bits, n.value = l.integer := by
  have least := h.least_le
  have most := h.lt_bound
  rw [← Signed.cast_bound] at least most
  exact ⟨⟨l.integer, least, most⟩, rfl⟩

theorem toInt?_eq (h : l.Fits bits) (narrow : bits ≤ 64) : l.toInt? = some l.integer := by
  obtain ⟨n, same⟩ := h.exists_signed
  rw [← same]
  exact Kind.toInt?_eq_of_signed narrow h.plain h.notMinusZero same

end Json.Literal.Fits

theorem Json.Literal.fits_ofInt_iff {n : Int} {bits : Nat} :
    (ofInt n).Fits bits ↔ -(2 : Int) ^ (bits - 1) ≤ n ∧ n < (2 : Int) ^ (bits - 1) := by
  constructor
  · intro fits
    have least := fits.least_le
    have most := fits.lt_bound
    rw [integer_ofInt] at least most
    exact ⟨least, most⟩
  · rintro ⟨least, most⟩
    rw [← integer_ofInt n] at least most
    exact ⟨⟨rfl, rfl⟩, not_isMinusZero_ofInt n, least, most⟩

theorem Kind.takes_number_iff {bits : Nat} {l : Literal} :
    (Kind.integer bits).Takes (.number l) ↔ l.Fits bits := by
  constructor
  · rintro ⟨⟨l', same, plain, n, value⟩, notMinusZero⟩
    cases same
    have least := n.least_le
    have most := n.lt_bound
    rw [Signed.cast_bound, value] at least most
    exact ⟨plain, fun minusZero => notMinusZero ⟨l, rfl, plain, minusZero⟩, least, most⟩
  · intro fits
    refine ⟨⟨l, rfl, fits.plain, fits.exists_signed⟩, ?_⟩
    rintro ⟨l', same, -, minusZero⟩
    cases same
    exact fits.notMinusZero minusZero

/-- A value is read as one scalar only. -/
theorem Scalar.IsReadFrom.eq {s s' : Scalar} {v : Option Json.Value} (h : s.IsReadFrom v)
    (h' : s'.IsReadFrom v) : s = s' := by
  cases s with
  | text s =>
    obtain rfl : v = some (.text s) := h
    cases s' with
    | text s' =>
      cases h'
      rfl
    | flag b' => cases h'
    | integer n' => obtain ⟨l, same, -⟩ := h'; cases same
  | flag b =>
    obtain rfl : v = some (.boolean b) := h
    cases s' with
    | text s' => cases h'
    | flag b' =>
      cases h'
      rfl
    | integer n' => obtain ⟨l, same, -⟩ := h'; cases same
  | integer n =>
    obtain ⟨l, rfl, denotes⟩ := h
    cases s' with
    | text s' => cases h'
    | flag b' => cases h'
    | integer n' =>
      obtain ⟨l', same, denotes'⟩ := h'
      cases same
      cases denotes.symm.trans denotes'
      rfl

def AgreeElsewhere (key : Key) (ms ms' : Members) : Prop :=
  ∀ key' ≠ key, ms.last? key'.name = ms'.last? key'.name

namespace Inbound

/-- The keys that hold integers, and the widths of these. -/
inductive HoldsInteger : Inbound → Key → Nat → Prop
  | size : HoldsInteger .notification .blobSizeInBytes 64
  | code : HoldsInteger .statusReport .statusCode 32

variable {kind : Inbound} {key : Key} {bits : Nat} {ms ms₀ : Members} {m m₀ : kind.Message}
  {l : Literal}

theorem HoldsInteger.declared (holds : kind.HoldsInteger key bits) :
    (key, .integer bits) ∈ kind.schema := by
  cases holds <;> decide

theorem HoldsInteger.eq_of_declared (holds : kind.HoldsInteger key bits) {type : Kind}
    (declared : (key, type) ∈ kind.schema) : type = .integer bits :=
  kind_unique declared holds.declared

theorem HoldsInteger.exists_integer (holds : kind.HoldsInteger key bits) (m : kind.Message) :
    ∃ n, kind.scalar m key = some (.integer n) := by
  cases holds <;> exact ⟨_, rfl⟩

/-- With another integer that fits, the kinds are right as before. -/
theorem HoldsInteger.typed (holds : kind.HoldsInteger key bits)
    (agree : AgreeElsewhere key ms ms₀) (last : ms.last? key.name = some (.number l))
    (fits : l.Fits bits) (typed : Payload.Typed kind.schema ms₀) :
    Payload.Typed kind.schema ms := by
  rintro ⟨key', type⟩ declared v last'
  by_cases same : key' = key
  · subst same
    obtain rfl := holds.eq_of_declared declared
    cases last.symm.trans last'
    exact .inr (Kind.takes_number_iff.mpr fits)
  · rw [agree key' same] at last'
    exact typed _ declared v last'

theorem sound_of_number (agree : AgreeElsewhere key ms ms₀)
    (last : ms.last? key.name = some (.number l)) {keys : List Key} (sound : Sound ms₀ keys) :
    Sound ms keys := by
  intro key' mem fault flaw
  by_cases same : key' = key
  · subst same
    rw [last] at flaw
    cases flaw
  · rw [agree key' same] at flaw
    exact sound key' mem fault flaw

/-- Times are no integers. -/
theorem HoldsInteger.timesRead (holds : kind.HoldsInteger key bits)
    (agree : AgreeElsewhere key ms ms₀) (read : kind.TimesRead ms₀) : kind.TimesRead ms := by
  cases holds with
  | size =>
    unfold TimesRead
    rw [agree .enqueuedTimeUtc (by decide), agree .lastUpdatedTime (by decide)]
    exact read
  | code => trivial

theorem HoldsInteger.scalar_eq (holds : kind.HoldsInteger key bits) (shows' : kind.Shows m ms)
    (last : ms.last? key.name = some (.number l)) :
    kind.scalar m key = some (.integer l.integer) := by
  obtain ⟨s, shown, from'⟩ := shows' _ holds.declared
  obtain ⟨n, held⟩ := holds.exists_integer m
  cases held.symm.trans shown
  obtain ⟨l', last', denotes⟩ := from'
  cases last.symm.trans last'
  obtain ⟨-, -, same, -⟩ := Literal.toInt?_eq_some_iff.mp denotes
  rw [held, same]

theorem Shows.scalar_eq (shows' : kind.Shows m ms) (shows₀ : kind.Shows m₀ ms₀)
    {entry : Key × Kind} (declared : entry ∈ kind.schema)
    (same : ms.last? entry.1.name = ms₀.last? entry.1.name) :
    kind.scalar m entry.1 = kind.scalar m₀ entry.1 := by
  obtain ⟨s, shown, from'⟩ := shows' _ declared
  obtain ⟨s₀, shown₀, from₀⟩ := shows₀ _ declared
  rw [same] at from'
  rw [shown, shown₀, from'.eq from₀]

/-- A literal that does not fit is the first value of a wrong kind, as there is no other. -/
theorem HoldsInteger.firstMistyped?_eq (holds : kind.HoldsInteger key bits)
    (agree : AgreeElsewhere key ms ms₀) (last : ms.last? key.name = some (.number l))
    (misfit : ¬l.Fits bits) (typed : Payload.Typed kind.schema ms₀) :
    Payload.firstMistyped? kind.schema ms =
      some (.mistyped (.ofValue (.number l)) (.integer bits)) := by
  refine (Payload.firstMistyped?_eq_some_iff kind.schema_precedes kind.isNarrow_of_mem_schema).mpr
    ⟨key, .integer bits, .number l, ⟨holds.declared, ⟨last, by simp, ?_⟩, ?_⟩, rfl⟩
  · exact fun takes => misfit (Kind.takes_number_iff.mp takes)
  · intro key' type v declared mistyped
    by_cases same : key' = key
    · exact .inl same
    · have last' := mistyped.last
      rw [agree key' same] at last'
      exact absurd (typed _ declared v last') (not_or.mpr ⟨mistyped.notNull, mistyped.wrong⟩)

theorem rejects_of_read {text : String} {fault : Json.Fault}
    (h : Json.read text.toList = .error fault) :
    ∃ fault, (kind.ofJson text).result = .error (.malformedPayload fault) := by
  cases read : Payload.members kind.schema text with
  | error fault' => exact ⟨fault', rejects_iff.mpr read⟩
  | ok ms =>
    cases h.symm.trans (Json.read_of_isTextOf (Payload.isTextOf_of_members read))

end Inbound

/-- An integer that is too large is reported as it is written. -/
theorem Payload.mistyped_message {bits : Nat} {l : Literal} {cs : List Char} {n : Int}
    (literal : LiteralSpelling l cs) (denotes : l.toInt? = some n) :
    (Fault.mistyped (.ofValue (.number l)) (.integer bits)).message =
      "invalid value: integer `" ++ String.ofList cs ++ "`, expected i" ++ toString bits := by
  have front : "invalid value: integer `" = "invalid value: " ++ "integer `" := rfl
  have back : "`, expected i" = "`" ++ (", expected " ++ "i") := rfl
  calc (Fault.mistyped (.ofValue (.number l)) (.integer bits)).message
      = (Fault.mistyped (.integer n) (.integer bits)).message := by
        rw [Found.ofValue_eq_integer_iff.mpr ⟨l, rfl, denotes⟩]
    _ = "invalid value: " ++ (Found.integer n).message ++ ", expected " ++
          (Kind.integer bits).message := rfl
    _ = "invalid value: " ++ ("integer `" ++ String.ofList cs ++ "`") ++ ", expected " ++
          ("i" ++ toString bits) := by
        rw [Found.message_integer, Kind.message_integer, Literal.spelling_of_toInt? literal denotes]
    _ = "invalid value: integer `" ++ String.ofList cs ++ "`, expected i" ++ toString bits := by
        simp only [front, back, String.append_assoc]

/-- What comes of a literal in the place of an integer of a message that was accepted. -/
structure IntegerRead (kind : Inbound) (m₀ : kind.Message) (key : Key) (bits : Nat) (l : Literal)
    (cs : List Char) (result : Except Rejection kind.Message) : Prop where
  accepted_iff : (∃ m, result = .ok m) ↔ l.Fits bits
  held : ∀ m, result = .ok m → kind.scalar m key = some (.integer l.integer)
  others : ∀ m, result = .ok m → ∀ entry ∈ kind.schema, entry.1 ≠ key →
    kind.scalar m entry.1 = kind.scalar m₀ entry.1
  refused : ¬l.Fits bits → ∃ fault, result = .error (.malformedPayload fault)
  reason : ∀ fault, result = .error (.malformedPayload fault) → l.IsPlain → ¬l.IsMinusZero →
    -(2 : Int) ^ 63 ≤ l.integer → l.integer < (2 : Int) ^ 64 →
      fault.message =
        "invalid value: integer `" ++ String.ofList cs ++ "`, expected i" ++ toString bits

theorem IntegerRead.of_rejected {kind : Inbound} {m₀ : kind.Message} {key : Key} {bits : Nat}
    {l : Literal} {cs : List Char} {fault : Payload.Fault} (misfit : ¬l.Fits bits)
    (reason : ∀ n, l.toInt? = some n → fault.message =
      "invalid value: integer `" ++ String.ofList cs ++ "`, expected i" ++ toString bits) :
    IntegerRead kind m₀ key bits l cs (.error (.malformedPayload fault)) where
  accepted_iff := ⟨fun ⟨m, h⟩ => (by cases h), fun fits => absurd fits misfit⟩
  held := by rintro _ ⟨⟩
  others := by rintro _ ⟨⟩
  refused := fun _ => ⟨fault, rfl⟩
  reason := by
    rintro _ ⟨⟩ plain notMinusZero least most
    exact reason _ (Literal.toInt?_eq_some_iff.mpr ⟨plain, notMinusZero, rfl, least, most⟩)

namespace Inbound.HoldsInteger

variable {kind : Inbound} {key : Key} {bits : Nat} {ms ms₀ : Members} {m m₀ : kind.Message}
  {l : Literal} {cs : List Char} {text : String}

theorem integerRead_of_fits (holds : kind.HoldsInteger key bits)
    (agree : AgreeElsewhere key ms ms₀) (last : ms.last? key.name = some (.number l))
    (fits : l.Fits bits) (typed₀ : Payload.Typed kind.schema ms₀)
    (accepted₀ : (kind.form.ofMembers ms₀).result = .ok m₀)
    (writes : IsTextOf (.object ms) text.toList) :
    IntegerRead kind m₀ key bits l cs (kind.ofJson text).result := by
  have typed := holds.typed agree last fits typed₀
  obtain ⟨sound₀, times₀⟩ := (ofMembers_accepted_iff typed₀).mp ⟨m₀, accepted₀⟩
  have sound := sound_of_number agree last sound₀
  have times := holds.timesRead agree times₀
  obtain ⟨m, accepted⟩ := (ofMembers_accepted_iff typed).mpr ⟨sound, times⟩
  have payload := (Payload.members_eq_ok_iff kind.isNarrow_of_mem_schema).mpr ⟨writes, typed⟩
  rw [ofJson_of_members payload, accepted]
  have shows' := shows_of_ofMembers accepted
  have shows₀ := shows_of_ofMembers accepted₀
  exact
    { accepted_iff := ⟨fun _ => fits, fun _ => ⟨m, rfl⟩⟩
      held := by
        rintro _ ⟨⟩
        exact holds.scalar_eq shows' last
      others := by
        rintro _ ⟨⟩ entry declared other
        exact shows'.scalar_eq shows₀ declared (agree entry.1 other)
      refused := fun misfit => absurd fits misfit
      reason := by rintro _ ⟨⟩ }

theorem integerRead_of_misfit (holds : kind.HoldsInteger key bits)
    (agree : AgreeElsewhere key ms ms₀) (last : ms.last? key.name = some (.number l))
    (misfit : ¬l.Fits bits) (typed₀ : Payload.Typed kind.schema ms₀)
    (literal : LiteralSpelling l cs) (writes : IsTextOf (.object ms) text.toList) :
    IntegerRead kind m₀ key bits l cs (kind.ofJson text).result := by
  rw [ofJson_of_isTextOf writes, holds.firstMistyped?_eq agree last misfit typed₀]
  exact .of_rejected misfit fun n denotes => Payload.mistyped_message literal denotes

theorem integerRead_of_overflows (holds : kind.HoldsInteger key bits) (overflows : l.Overflows)
    (read : Json.read text.toList = .error .numberOverflow) :
    IntegerRead kind m₀ key bits l cs (kind.ofJson text).result := by
  obtain ⟨fault, rejected⟩ := rejects_of_read read
  have misfit : ¬l.Fits bits := fun fits => by
    cases overflows.1.symm.trans (fits.toInt?_eq (kind.isNarrow_of_mem_schema _ holds.declared))
  rw [rejected]
  exact .of_rejected misfit fun n denotes => by cases overflows.1.symm.trans denotes

/-- The integer that a message holds stands in a slot of its text. -/
theorem exists_slot (holds : kind.HoldsInteger key bits) (shows' : kind.Shows m ms)
    (writes : IsTextOf (.object ms) cs) :
    ∃ slot : Slot key.name, slot.IsLast ∧ ∃ l ds, LiteralSpelling l ds ∧ slot.fill ds = cs := by
  obtain ⟨s, shown, from'⟩ := shows' _ holds.declared
  obtain ⟨n, held⟩ := holds.exists_integer m
  cases held.symm.trans shown
  obtain ⟨l, last, -⟩ := from'
  obtain ⟨slot, isLast, -, ds, spelled, filled⟩ := Slot.exists_of_isTextOf writes last
  cases spelled with
  | number literal _ => exact ⟨slot, isLast, l, ds, literal, filled⟩

end Inbound.HoldsInteger

/-- Every accepted text has a place for the integer. Whatever literal stands there instead, the
message holds the integer that it writes, or the payload is malformed; an integer that fits 64 bits
but not the field is reported as it is written. -/
theorem integers_are_exact {kind : Inbound} {key : Key} {bits : Nat}
    (holds : kind.HoldsInteger key bits) {text : String} {m₀ : kind.Message}
    (valid : (kind.ofJson text).result = .ok m₀) :
    (∃ slot : Slot key.name, slot.IsLast ∧
      ∃ l₀ cs₀, LiteralSpelling l₀ cs₀ ∧ slot.fill cs₀ = text.toList) ∧
    ∀ slot : Slot key.name, slot.IsLast →
      ∀ l₀ cs₀, LiteralSpelling l₀ cs₀ → slot.fill cs₀ = text.toList →
        ∀ l cs, LiteralSpelling l cs →
          IntegerRead kind m₀ key bits l cs (kind.ofJson (String.ofList (slot.fill cs))).result := by
  obtain ⟨ms₀, writes₀, typed₀, accepted₀⟩ := Inbound.exists_members_of_accepted valid
  refine ⟨holds.exists_slot (Inbound.shows_of_ofMembers accepted₀) writes₀, ?_⟩
  intro slot isLast l₀ cs₀ literal₀ filled l cs literal
  rw [← filled] at writes₀
  cases slot.eq_of_isTextOf literal₀ writes₀
  have agree : AgreeElsewhere key (slot.members (.number l)) (slot.members (.number l₀)) :=
    fun key' other => slot.last?_members_of_ne (fun same => other (Key.name_injective same)) _ _
  have last := slot.last?_members isLast (.number l)
  have chars : (String.ofList (slot.fill cs)).toList = slot.fill cs := String.toList_ofList
  by_cases overflows : l.Overflows
  · have read := slot.read_of_overflows literal overflows
    rw [← chars] at read
    exact holds.integerRead_of_overflows overflows read
  · have writes := slot.isTextOf_fill (.number literal overflows)
    rw [← chars] at writes
    by_cases fits : l.Fits bits
    · exact holds.integerRead_of_fits agree last fits typed₀ accepted₀ writes
    · exact holds.integerRead_of_misfit agree last fits typed₀ literal writes

theorem IntegerRead.exists_held {kind : Inbound} {m₀ : kind.Message} {key : Key} {bits : Nat}
    {n : Int} {cs : List Char} {result : Except Rejection kind.Message}
    (read : IntegerRead kind m₀ key bits (.ofInt n) cs result)
    (fits : -(2 : Int) ^ (bits - 1) ≤ n ∧ n < (2 : Int) ^ (bits - 1)) :
    ∃ m, result = .ok m ∧ kind.scalar m key = some (.integer n) := by
  obtain ⟨m, accepted⟩ := read.accepted_iff.mpr (Literal.fits_ofInt_iff.mpr fits)
  refine ⟨m, accepted, ?_⟩
  rw [read.held m accepted, Literal.integer_ofInt]

theorem IntegerRead.exists_reported {kind : Inbound} {m₀ : kind.Message} {key : Key} {bits : Nat}
    {n : Int} {cs : List Char} {result : Except Rejection kind.Message}
    (read : IntegerRead kind m₀ key bits (.ofInt n) cs result)
    (misfit : ¬(-(2 : Int) ^ (bits - 1) ≤ n ∧ n < (2 : Int) ^ (bits - 1)))
    (fits : -(2 : Int) ^ 63 ≤ n ∧ n < (2 : Int) ^ 64) :
    ∃ fault, result = .error (.malformedPayload fault) ∧ fault.message =
      "invalid value: integer `" ++ String.ofList cs ++ "`, expected i" ++ toString bits := by
  obtain ⟨fault, rejected⟩ := read.refused fun h => misfit (Literal.fits_ofInt_iff.mp h)
  rw [← Literal.integer_ofInt n] at fits
  exact ⟨fault, rejected, read.reason fault rejected ⟨rfl, rfl⟩ (Literal.not_isMinusZero_ofInt n)
    fits.1 fits.2⟩

def Json.Slot.beforeRecord {key : String} (earlier : Members) (before : List Char)
    (later : Json.Record) (nonempty : later ≠ [])
    (fits : ∀ member ∈ later, Json.ScalarFits member.2)
    (opened : Json.Opened [.member earlier.reverse key] before) : Slot key where
  earlier := earlier
  later := later.toMembers
  before := before
  after := ',' :: later.writtenMembers ++ ['\x7d']
  opened := opened
  closed :=
    ⟨',' :: later.writtenMembers, [],
      .inr ⟨[], _, Json.isGap_nil, Json.spelling_members later nonempty fits, rfl⟩,
      Json.isGap_nil, rfl⟩

/-- A status report whose second code is left out. -/
def codeSlot : Slot Key.statusCode.name :=
  .beforeRecord [("statusCode", .text "7")] "\x7b \"statusCode\":\"7\",\"statusCode\":".toList
    [("correlationId", .text "c"), ("isSuccess", .flag true), ("statusDescription", .text "d")]
    (by simp) (by simp [Json.ScalarFits]) (Json.State.run_eq_ok_iff_opened.mp (by rfl))

def codedReport : StatusReport :=
  { correlationId := ⟨"c", by decide, by decide⟩
    outcome :=
      { isSuccess := true
        statusCode := ⟨0, by decide, by decide⟩
        description := ⟨"d", by decide, by decide⟩ } }

def sizeSlot : Slot Key.blobSizeInBytes.name :=
  .beforeRecord [] "\x7b\"blobSizeInBytes\":".toList
    [("deviceId", .text "d"), ("blobUri", .text "u"), ("blobName", .text "b"),
     ("lastUpdatedTime", .text "2016-06-01T21:22:41+00:00"),
     ("enqueuedTimeUtc", .text "2016-06-01T21:22:43.7996883Z")]
    (by simp) (by simp [Json.ScalarFits]) (Json.State.run_eq_ok_iff_opened.mp (by rfl))

def sizedNotification : Notification :=
  { deviceId := ⟨"d", by decide, by decide⟩
    blobUri := ⟨"u", by decide, by decide⟩
    blobName := ⟨"b", by decide, by decide⟩
    lastUpdated :=
      ⟨⟨"2016-06-01T21:22:41+00:00", by decide, by decide⟩, ⟨1464816161, 0⟩, by decide +kernel⟩
    blobSize := ⟨0, by decide, by decide⟩
    enqueued :=
      ⟨⟨"2016-06-01T21:22:43.7996883Z", by decide, by decide⟩, ⟨1464824159, 883000000⟩,
        by decide +kernel⟩ }

/-- An extreme integer of each field is held, and the one next to the other extreme reported. -/
theorem integers_are_exact_extremes :
    (∃ m, (Inbound.statusReport.ofJson
        (String.ofList (codeSlot.fill (Numeral.ofInt (-2147483648))))).result = .ok m ∧
      Inbound.statusReport.scalar m .statusCode = some (.integer (-2147483648))) ∧
    (∃ fault, (Inbound.statusReport.ofJson
        (String.ofList (codeSlot.fill (Numeral.ofInt 2147483648)))).result =
      .error (.malformedPayload fault) ∧
      fault.message = "invalid value: integer `2147483648`, expected i32") ∧
    (∃ m, (Inbound.notification.ofJson
        (String.ofList (sizeSlot.fill (Numeral.ofInt (-9223372036854775808))))).result = .ok m ∧
      Inbound.notification.scalar m .blobSizeInBytes = some (.integer (-9223372036854775808))) ∧
    ∃ fault, (Inbound.notification.ofJson
        (String.ofList (sizeSlot.fill (Numeral.ofInt 9223372036854775808)))).result =
      .error (.malformedPayload fault) ∧
      fault.message = "invalid value: integer `9223372036854775808`, expected i64" := by
  have zero : LiteralSpelling (.ofInt 0) ['0'] := Literal.literalSpelling_ofInt 0
  have filled (cs : List Char) : cs = (String.ofList cs).toList := String.toList_ofList.symm
  have code : (Inbound.statusReport.ofJson (String.ofList (codeSlot.fill ['0']))).result =
      .ok codedReport := by decide +kernel
  have size : (Inbound.notification.ofJson (String.ofList (sizeSlot.fill ['0']))).result =
      .ok sizedNotification := by decide +kernel
  have readCode (n : Int) := (integers_are_exact .code code).2 codeSlot
    (by simp [Slot.IsLast, codeSlot, Slot.beforeRecord, Json.Record.toMembers, Key.name]) _ _ zero
    (filled _) _ _ (Literal.literalSpelling_ofInt n)
  have readSize (n : Int) := (integers_are_exact .size size).2 sizeSlot
    (by simp [Slot.IsLast, sizeSlot, Slot.beforeRecord, Json.Record.toMembers, Key.name]) _ _ zero
    (filled _) _ _ (Literal.literalSpelling_ofInt n)
  exact ⟨(readCode _).exists_held (by decide), (readCode _).exists_reported (by decide) (by decide),
    (readSize _).exists_held (by decide), (readSize _).exists_reported (by decide) (by decide)⟩

end UploadMessages
