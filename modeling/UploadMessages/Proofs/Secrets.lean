import UploadMessages.Proofs.LastValues
import UploadMessages.Proofs.Text.Order

/-! # Secrets stay out of the journal

The token of a response and the address of the blob in a notification are secrets.
Two texts that differ in a secret only, and there by texts of which the same is wrong,
are journalled alike and rejected alike; if they are accepted, the messages differ in
the secret only.
-/

namespace UploadMessages

open Json (IsTextOf Members)

namespace Logged

variable {α β γ δ : Type}

/-- The same events happen, and the results are one rejection or are related. -/
def Alike (R : α → β → Prop) (x : Logged α) (y : Logged β) : Prop :=
  x.events = y.events ∧
    ((∃ rejection, x.result = .error rejection ∧ y.result = .error rejection) ∨
      ∃ a b, x.result = .ok a ∧ y.result = .ok b ∧ R a b)

namespace Alike

variable {R : α → β → Prop} {S : γ → δ → Prop}

theorem bind {x : Logged α} {y : Logged β} {f : α → Logged γ} {g : β → Logged δ}
    (h : Alike R x y) (rest : ∀ a b, R a b → Alike S (f a) (g b)) :
    Alike S (x >>= f) (y >>= g) := by
  obtain ⟨result, events⟩ := x
  obtain ⟨result', events'⟩ := y
  obtain ⟨rfl, ⟨rejection, rfl, rfl⟩ | ⟨a, b, rfl, rfl, related⟩⟩ := h
  · exact ⟨rfl, .inl ⟨rejection, rfl, rfl⟩⟩
  · obtain ⟨laterEvents, laterResults⟩ := rest a b related
    exact ⟨congrArg (events ++ ·) laterEvents, laterResults⟩

/-- One way is alike to itself, and so is what follows from one result. -/
theorem bind_self (x : Logged α) {f : α → Logged γ} {g : α → Logged δ}
    (rest : ∀ a, Alike S (f a) (g a)) : Alike S (x >>= f) (x >>= g) := by
  have self : Alike (· = ·) x x := by
    refine ⟨rfl, ?_⟩
    cases h : x.result with
    | error rejection => exact .inl ⟨rejection, rfl, rfl⟩
    | ok a => exact .inr ⟨a, a, rfl, rfl, rfl⟩
  refine self.bind fun a b same => ?_
  obtain rfl : a = b := same
  exact rest a

theorem pure {a : α} {b : β} (h : R a b) : Alike R (Pure.pure a : Logged α) (Pure.pure b) :=
  ⟨rfl, .inr ⟨a, b, rfl, rfl, h⟩⟩

end Alike

end Logged

/-- Two texts of which the same is wrong, or nothing. -/
inductive SameClass : String → String → Prop
  | empty : SameClass "" ""
  | multiByte {s s' : String} (h : ∃ c ∈ s.toList, 1 < c.utf8Size)
    (h' : ∃ c ∈ s'.toList, 1 < c.utf8Size) : SameClass s s'
  | plain {s s' : String} (h : Text.Plain s) (h' : Text.Plain s') : SameClass s s'

theorem Field.text_of_multiByte {s : String} (h : ∃ c ∈ s.toList, 1 < c.utf8Size) :
    Field.text (some s) = .error .multiByte := by
  obtain ⟨c, mem, wide⟩ := h
  have nonempty : s ≠ "" := by
    rintro rfl
    cases mem
  have notSingle : s.utf8ByteSize ≠ s.length := by
    intro single
    have narrow := Text.narrow_toList_iff.mpr single c mem
    omega
  simp only [Field.text, nonempty, notSingle, dite_false]

theorem Field.text_of_plain {s : String} (h : Text.Plain s) :
    Field.text (some s) = .ok ⟨s, h.1, Text.narrow_toList_iff.mp h.2⟩ :=
  Field.text_of_fieldText ⟨s, h.1, Text.narrow_toList_iff.mp h.2⟩

theorem SameClass.alike_text {s s' : String} (h : SameClass s s') (field : String) :
    Logged.Alike (fun _ _ => True) (Intake.text field (some s)) (Intake.text field (some s')) := by
  cases h with
  | empty => exact ⟨rfl, .inl ⟨_, rfl, rfl⟩⟩
  | multiByte h h' =>
    simp only [Intake.text, Field.text_of_multiByte h, Field.text_of_multiByte h']
    exact ⟨rfl, .inl ⟨_, rfl, rfl⟩⟩
  | plain h h' =>
    simp only [Intake.text, Field.text_of_plain h, Field.text_of_plain h']
    exact ⟨rfl, .inr ⟨_, _, rfl, rfl, trivial⟩⟩

namespace Inbound

/-- The key of a kind whose value must not be told. -/
def secret? : Inbound → Option Key
  | .notification => some .blobUri
  | .response => some .sasToken
  | .statusReport => none

def AgreeButSecret : (kind : Inbound) → kind.Message → kind.Message → Prop
  | .notification, m, m' => ∃ secret, m' = { m with blobUri := secret }
  | .response, m, m' => ∃ secret, m' = { m with sasToken := secret }
  | .statusReport, m, m' => m' = m

variable {kind : Inbound} {ms ms' : Members}

theorem alike_ofMembers {secret : Key} {s s' : String} (isSecret : kind.secret? = some secret)
    (same : ∀ entry ∈ kind.schema, entry.1 ≠ secret →
      Payload.field? ms entry.1 entry.2 = Payload.field? ms' entry.1 entry.2)
    (given : Payload.field? ms secret .text = some s)
    (given' : Payload.field? ms' secret .text = some s') (sameClass : SameClass s s') :
    Logged.Alike kind.AgreeButSecret (kind.form.ofMembers ms) (kind.form.ofMembers ms') := by
  have secretField := sameClass.alike_text
  cases kind with
  | notification =>
    cases isSecret
    obtain ⟨hb, hs, -, hd, he, hl⟩ := Notification.forall_mem_schema.mp same
    simp only [form, Notification.form, Notification.ofMembers, Notification.ofMembers.field,
      hb (by decide), hs (by decide), hd (by decide), he (by decide), hl (by decide), given, given']
    refine .bind_self _ fun deviceId => .bind (secretField _) fun blobUri blobUri' _ => ?_
    refine .bind_self _ fun blobName => .bind_self _ fun enqueuedTimeUtc => ?_
    refine .bind_self _ fun lastUpdatedTime => .bind_self _ fun blobSize => ?_
    refine .bind_self _ fun enqueued => .bind_self _ fun lastUpdated => ?_
    exact .bind_self _ fun _ => .pure ⟨blobUri', rfl⟩
  | response =>
    cases isSecret
    obtain ⟨hb, hn, hc, hh, -⟩ := Response.forall_mem_schema.mp same
    simp only [form, Response.form, Response.ofMembers, Response.ofMembers.field,
      hb (by decide), hn (by decide), hc (by decide), hh (by decide), given, given']
    refine .bind_self _ fun correlationId => .bind_self _ fun hostName => ?_
    refine .bind_self _ fun containerName => .bind_self _ fun blobName => ?_
    refine .bind (secretField _) fun sasToken sasToken' _ => ?_
    exact .bind_self _ fun _ => .pure ⟨sasToken', rfl⟩
  | statusReport => cases isSecret

/-- A secret is declared to be a text. -/
theorem secret_declared {secret : Key} (isSecret : kind.secret? = some secret) :
    (secret, Kind.text) ∈ kind.schema := by
  cases kind <;> cases isSecret <;> decide

theorem mistyped?_secret {secret : Key} (isSecret : kind.secret? = some secret)
    {entry : Key × Kind} (declared : entry ∈ kind.schema) (same : entry.1 = secret) {s : String}
    (last : ms.last? secret.name = some (.text s)) :
    Payload.mistyped? ms entry.1 entry.2 = none := by
  subst same
  have text : entry.2 = .text := kind_unique declared (secret_declared isSecret)
  rw [Payload.mistyped?, last, text]
  rfl

end Inbound

/-- Texts of objects that differ in a secret only are journalled alike, and rejected alike or read
as messages that differ in the secret at most. -/
theorem secrets_stay_out {kind : Inbound} {secret : Key} (isSecret : kind.secret? = some secret)
    {text text' : String} {ms ms' : Members} (writes : IsTextOf (.object ms) text.toList)
    (writes' : IsTextOf (.object ms') text'.toList)
    (same : ∀ entry ∈ kind.schema, entry.1 ≠ secret → SameLast ms ms' entry.1) {s s' : String}
    (last : ms.last? secret.name = some (.text s))
    (last' : ms'.last? secret.name = some (.text s')) (sameClass : SameClass s s') :
    Logged.Alike kind.AgreeButSecret (kind.ofJson text) (kind.ofJson text') := by
  have faults : Payload.firstMistyped? kind.schema ms = Payload.firstMistyped? kind.schema ms' := by
    refine Payload.firstMistyped?_congr fun entry declared => ?_
    by_cases isIt : entry.1 = secret
    · rw [Inbound.mistyped?_secret isSecret declared isIt last,
        Inbound.mistyped?_secret isSecret declared isIt last']
    · exact (same entry declared isIt).mistyped?_eq entry.2
  rw [Inbound.ofJson_of_isTextOf writes, Inbound.ofJson_of_isTextOf writes', faults]
  cases Payload.firstMistyped? kind.schema ms' with
  | some fault => exact ⟨rfl, .inl ⟨_, rfl, rfl⟩⟩
  | none =>
    exact Inbound.alike_ofMembers isSecret
      (fun entry declared isNot => (same entry declared isNot).field?_eq entry.2)
      (Payload.field?_of_last last) (Payload.field?_of_last last') sameClass

def grantText (token : String) : String :=
  "\x7b\"correlationId\":\"c\",\"hostName\":\"h\",\"containerName\":\"n\"," ++
    "\"blobName\":\"b\",\"sasToken\":\"" ++ token ++ "\"\x7d"

def grantMembers (token : String) : Members :=
  [("correlationId", .text "c"), ("hostName", .text "h"), ("containerName", .text "n"),
   ("blobName", .text "b"), ("sasToken", .text token)]

def lateText (address : String) : String :=
  "\x7b\"deviceId\":\"d\",\"blobUri\":\"" ++ address ++ "\",\"blobName\":\"b\"," ++
    "\"lastUpdatedTime\":\"t\",\"blobSizeInBytes\":1," ++
    "\"enqueuedTimeUtc\":\"t\"\x7d"

def lateMembers (address : String) : Members :=
  [("deviceId", .text "d"), ("blobUri", .text address), ("blobName", .text "b"),
   ("lastUpdatedTime", .text "t"), ("blobSizeInBytes", .number (.ofInt 1)),
   ("enqueuedTimeUtc", .text "t")]

/-- Neither the tokens of accepted responses nor the addresses in rejected notifications show. -/
theorem secrets_stay_out_grantText :
    Logged.Alike (Inbound.AgreeButSecret .response)
      (Inbound.response.ofJson (grantText "sig=1")) (Inbound.response.ofJson (grantText "x")) ∧
    Logged.Alike (Inbound.AgreeButSecret .notification)
      (Inbound.notification.ofJson (lateText "x"))
      (Inbound.notification.ofJson (lateText "y")) := by
  have plain (t : FieldText) (t' : FieldText) : SameClass t.text t'.text := .plain t.plain t'.plain
  constructor
  · have writes : IsTextOf (.object (grantMembers "sig=1")) (grantText "sig=1").toList :=
      Json.read_eq_ok_iff.mp (by rfl)
    have writes' : IsTextOf (.object (grantMembers "x")) (grantText "x").toList :=
      Json.read_eq_ok_iff.mp (by rfl)
    refine @secrets_stay_out .response .sasToken rfl _ _ _ _ writes writes' ?_ _ _ rfl rfl
      (plain ⟨"sig=1", by decide, by decide⟩ ⟨"x", by decide, by decide⟩)
    exact Response.forall_mem_schema.mpr
      ⟨fun _ => rfl, fun _ => rfl, fun _ => rfl, fun _ => rfl, fun isNot => absurd rfl isNot⟩
  · have writes : IsTextOf (.object (lateMembers "x")) (lateText "x").toList :=
      Json.read_eq_ok_iff.mp (by rfl)
    have writes' : IsTextOf (.object (lateMembers "y")) (lateText "y").toList :=
      Json.read_eq_ok_iff.mp (by rfl)
    refine @secrets_stay_out .notification .blobUri rfl _ _ _ _ writes writes' ?_ _ _ rfl rfl
      (plain ⟨"x", by decide, by decide⟩ ⟨"y", by decide, by decide⟩)
    exact Notification.forall_mem_schema.mpr
      ⟨fun _ => rfl, fun _ => rfl, fun isNot => absurd rfl isNot, fun _ => rfl, fun _ => rfl,
        fun _ => rfl⟩

end UploadMessages
