import UploadMessages.Proofs.Fields

/-! # The order of faults

The keys of a payload are checked in a fixed order for each kind of message, and
the first key with a flaw is blamed. Only a payload without flaws becomes a
message; the times of a notification are read after all its keys are sound.
-/

namespace UploadMessages

open Json (IsTextOf Members)
open Payload (TypedAt)

/-- What is wrong with the last value of a key that is null or of the declared kind. -/
inductive Flaw : Option Json.Value → Field.Fault → Prop
  | absent : Flaw none .missing
  | null : Flaw (some .null) .missing
  | empty : Flaw (some (.text "")) .empty
  | multiByte {s : String} (h : s.utf8ByteSize ≠ s.length) : Flaw (some (.text s)) .multiByte

/-- What a message may hold has no flaw. -/
theorem FieldText.no_flaw (t : FieldText) (fault : Field.Fault) :
    ¬Flaw (some (.text t.text)) fault := by
  obtain ⟨s, nonempty, singleByte⟩ := t
  intro flaw
  cases flaw with
  | empty => exact nonempty rfl
  | multiByte h => exact h singleByte

inductive FirstFlaw (ms : Members) : List Key → Key → Field.Fault → Prop
  | here {key : Key} {later : List Key} {fault : Field.Fault}
    (flaw : Flaw (ms.last? key.name) fault) : FirstFlaw ms (key :: later) key fault
  | later {key key' : Key} {later : List Key} {fault : Field.Fault}
    (sound : ∀ fault, ¬Flaw (ms.last? key.name) fault) (flaw : FirstFlaw ms later key' fault) :
    FirstFlaw ms (key :: later) key' fault

def Sound (ms : Members) (keys : List Key) : Prop :=
  ∀ key ∈ keys, ∀ fault, ¬Flaw (ms.last? key.name) fault

theorem sound_or_firstFlaw (ms : Members) (keys : List Key) :
    Sound ms keys ∨ ∃ key fault, FirstFlaw ms keys key fault := by
  induction keys with
  | nil => exact .inl fun key mem => absurd mem List.not_mem_nil
  | cons key later ih =>
    by_cases flaw : ∃ fault, Flaw (ms.last? key.name) fault
    · obtain ⟨fault, flaw⟩ := flaw
      exact .inr ⟨key, fault, .here flaw⟩
    · have sound := not_exists.mp flaw
      rcases ih with fine | ⟨key', fault, first⟩
      · refine .inl fun key' mem => ?_
        rcases List.mem_cons.mp mem with rfl | mem
        · exact sound
        · exact fine key' mem
      · exact .inr ⟨key', fault, .later sound first⟩

theorem FirstFlaw.not_sound {ms : Members} {keys : List Key} {key : Key} {fault : Field.Fault}
    (first : FirstFlaw ms keys key fault) : ¬Sound ms keys := by
  induction first with
  | here flaw => exact fun sound => sound _ List.mem_cons_self _ flaw
  | later _ _ ih => exact fun sound => ih fun key mem => sound key (List.mem_cons_of_mem _ mem)

/-- A way that blames the first flaw of some keys, and comes to a conclusion without any. -/
def Walks {α : Type} (ms : Members) (keys : List Key) (x : Logged α)
    (Ends : Except Rejection α → Prop) : Prop :=
  (∀ key fault, FirstFlaw ms keys key fault → x.result = .error (.invalidField key.name fault)) ∧
    (Sound ms keys → Ends x.result)

variable {α β : Type} {ms : Members} {key : Key} {keys : List Key}
  {Ends : Except Rejection α → Prop}

theorem walks_nil {x : Logged α} (h : Ends x.result) : Walks ms [] x Ends :=
  ⟨fun _ _ flaw => (by cases flaw), fun _ => h⟩

/-- A check of one key, by which the first flaw is found or the rest is reached. -/
theorem walks_cons {check : Logged β} {f : β → Logged α}
    (blames : ∀ fault, Flaw (ms.last? key.name) fault →
      check.result = .error (.invalidField key.name fault))
    (passes : (∀ fault, ¬Flaw (ms.last? key.name) fault) →
      ∃ b, check.result = .ok b ∧ Walks ms keys (f b) Ends) :
    Walks ms (key :: keys) (check >>= f) Ends := by
  constructor
  · intro key' fault first
    cases first with
    | here flaw => exact Logged.result_bind_of_error (blames fault flaw) f
    | later sound first =>
      obtain ⟨b, passed, rest⟩ := passes sound
      rw [Logged.result_bind_of_ok passed]
      exact rest.1 key' fault first
  · intro sound
    obtain ⟨b, passed, rest⟩ := passes (sound key List.mem_cons_self)
    rw [Logged.result_bind_of_ok passed]
    exact rest.2 fun key' mem => sound key' (List.mem_cons_of_mem key mem)

/-- A key without flaws has a value of its kind. -/
theorem exists_takes {kind : Kind} (typed : TypedAt ms key kind)
    (sound : ∀ fault, ¬Flaw (ms.last? key.name) fault) :
    ∃ v, ms.last? key.name = some v ∧ kind.Takes v := by
  unfold TypedAt at typed
  rcases last : ms.last? key.name with _ | v
  · rw [last] at sound
    exact absurd .absent (sound .missing)
  · rw [last] at sound
    rcases typed v last with rfl | takes
    · exact absurd .null (sound .missing)
    · exact ⟨v, rfl, takes⟩

/-- A text without flaws may be held by a message. -/
theorem exists_fieldText (typed : TypedAt ms key .text)
    (sound : ∀ fault, ¬Flaw (ms.last? key.name) fault) :
    ∃ t : FieldText, ms.last? key.name = some (.text t.text) := by
  obtain ⟨v, last, ⟨s, rfl⟩, -⟩ := exists_takes typed sound
  rw [last] at sound
  have nonempty : s ≠ "" := by
    rintro rfl
    exact sound .empty .empty
  have singleByte : s.utf8ByteSize = s.length :=
    Decidable.not_not.mp fun h => sound .multiByte (.multiByte h)
  exact ⟨⟨s, nonempty, singleByte⟩, last⟩

theorem walks_text {f : FieldText → Logged α} (typed : TypedAt ms key .text)
    (rest : ∀ t : FieldText, ms.last? key.name = some (.text t.text) →
      Walks ms keys (f t) Ends) :
    Walks ms (key :: keys) (Intake.text key.name (Payload.field? ms key .text) >>= f) Ends := by
  apply walks_cons
  · intro fault flaw
    unfold Payload.field?
    generalize ms.last? key.name = v at flaw
    cases flaw with
    | absent => rfl
    | null => rfl
    | empty => rfl
    | multiByte h =>
      rename_i s
      have nonempty : s ≠ "" := by
        rintro rfl
        exact h rfl
      simp [Kind.accept?, Intake.text, Field.text, Logged.ofCheck, Logged.reject, nonempty, h]
  · intro sound
    obtain ⟨t, last⟩ := exists_fieldText typed sound
    have given : Payload.field? ms key .text = some t.text := Payload.field?_of_last last
    refine ⟨t, ?_, rest t last⟩
    rw [given, Intake.text_of_fieldText]

theorem walks_present {kind : Kind} {f : kind.Carrier → Logged α} (narrow : kind.IsNarrow)
    (noText : kind ≠ .text) (typed : TypedAt ms key kind)
    (rest : ∀ a, Payload.field? ms key kind = some a → Walks ms keys (f a) Ends) :
    Walks ms (key :: keys) (Intake.present key.name (Payload.field? ms key kind) >>= f)
      Ends := by
  have refused (s : String) : ¬kind.Takes (.text s) := by
    rintro ⟨declared, -⟩
    cases kind with
    | text => exact noText rfl
    | flag => simp [Kind.Declares] at declared
    | integer bits => simp [Kind.Declares] at declared
  apply walks_cons
  · intro fault flaw
    unfold Payload.field?
    unfold TypedAt at typed
    generalize ms.last? key.name = v at flaw typed
    cases flaw with
    | absent => rfl
    | null => cases kind <;> rfl
    | empty => exact absurd (typed _ rfl) (by simp [refused])
    | multiByte h => exact absurd (typed _ rfl) (by simp [refused])
  · intro sound
    obtain ⟨v, last, takes⟩ := exists_takes typed sound
    obtain ⟨a, accepted⟩ := Option.isSome_iff_exists.mp ((Kind.accept?_isSome_iff narrow).mpr takes)
    have given : Payload.field? ms key kind = some a :=
      (Payload.field?_of_last last).trans accepted
    refine ⟨a, ?_, rest a given⟩
    rw [given]
    rfl

/-- What a notification comes to whose fields are sound. The time of queueing is read first. -/
inductive Notification.Timed (enqueued updated : String) : Except Rejection Notification → Prop
  | enqueuedRejected {fault : Timestamp.Fault} (h : Timestamp.utc enqueued = .error fault) :
    Timed enqueued updated (.error (.invalidTimestamp enqueued fault))
  | updatedRejected {instant : Instant} {fault : Timestamp.Fault}
    (h : Timestamp.utc enqueued = .ok instant) (h' : Timestamp.zoned updated = .error fault) :
    Timed enqueued updated (.error (.invalidTimestamp updated fault))
  | accepted {m : Notification} (h : Timestamp.utc enqueued = .ok m.enqueued.instant)
    (h' : Timestamp.zoned updated = .ok m.lastUpdated.instant) : Timed enqueued updated (.ok m)

namespace Inbound

/-- The keys of a kind in the order of their checks. -/
def order : Inbound → List Key
  | .notification =>
    [.deviceId, .blobUri, .blobName, .enqueuedTimeUtc, .lastUpdatedTime, .blobSizeInBytes]
  | .response => [.correlationId, .hostName, .containerName, .blobName, .sasToken]
  | .statusReport => [.correlationId, .isSuccess, .statusCode, .statusDescription]

def Concludes (ms : Members) : (kind : Inbound) → Except Rejection kind.Message → Prop
  | .notification, result => ∃ enqueued updated,
    ms.last? Key.enqueuedTimeUtc.name = some (.text enqueued) ∧
      ms.last? Key.lastUpdatedTime.name = some (.text updated) ∧
      Notification.Timed enqueued updated result
  | .response, result => ∃ m, result = .ok m
  | .statusReport, result => ∃ m, result = .ok m

end Inbound

theorem Notification.timed_stamps (deviceId blobUri blobName enqueued updated : FieldText)
    (blobSize : Signed 64) : Timed enqueued.text updated.text (do
      let enqueued ← Intake.stamp Timestamp.utc enqueued
      let lastUpdated ← Intake.stamp Timestamp.zoned updated
      Logged.note (.notificationAccepted deviceId blobName blobSize)
      return { deviceId, blobUri, blobName, lastUpdated, blobSize, enqueued } :
        Logged Notification).result := by
  unfold Intake.stamp
  split
  · rename_i instant h
    split
    · rename_i instant' h'
      exact .accepted h h'
    · rename_i fault h'
      exact .updatedRejected h h'
  · rename_i fault h
    exact .enqueuedRejected h

namespace Inbound

theorem walks {kind : Inbound} {ms : Members} (typed : Payload.Typed kind.schema ms) :
    Walks ms kind.order (kind.form.ofMembers ms) (kind.Concludes ms) := by
  have typedAt (key : Key) (k : Kind) (declared : (key, k) ∈ kind.schema) : TypedAt ms key k :=
    typed (key, k) declared
  cases kind with
  | notification =>
    refine walks_text (typedAt .deviceId .text (by decide)) fun deviceId _ => ?_
    refine walks_text (typedAt .blobUri .text (by decide)) fun blobUri _ => ?_
    refine walks_text (typedAt .blobName .text (by decide)) fun blobName _ => ?_
    refine walks_text (typedAt .enqueuedTimeUtc .text (by decide)) fun enqueued he => ?_
    refine walks_text (typedAt .lastUpdatedTime .text (by decide)) fun updated hu => ?_
    refine walks_present (by simp [Kind.IsNarrow]) (by simp)
      (typedAt .blobSizeInBytes (.integer 64) (by decide)) fun blobSize _ => ?_
    exact walks_nil ⟨enqueued.text, updated.text, he, hu,
      Notification.timed_stamps deviceId blobUri blobName enqueued updated blobSize⟩
  | response =>
    refine walks_text (typedAt .correlationId .text (by decide)) fun correlationId _ => ?_
    refine walks_text (typedAt .hostName .text (by decide)) fun hostName _ => ?_
    refine walks_text (typedAt .containerName .text (by decide)) fun containerName _ => ?_
    refine walks_text (typedAt .blobName .text (by decide)) fun blobName _ => ?_
    refine walks_text (typedAt .sasToken .text (by decide)) fun sasToken _ => ?_
    exact walks_nil ⟨⟨correlationId, hostName, containerName, blobName, sasToken⟩, rfl⟩
  | statusReport =>
    refine walks_text (typedAt .correlationId .text (by decide)) fun correlationId _ => ?_
    simp only [Outcome.ofDraft, bind_assoc, pure_bind]
    refine walks_present trivial (by simp) (typedAt .isSuccess .flag (by decide))
      fun isSuccess _ => ?_
    refine walks_present (by simp [Kind.IsNarrow]) (by simp)
      (typedAt .statusCode (.integer 32) (by decide)) fun statusCode _ => ?_
    refine walks_text (typedAt .statusDescription .text (by decide)) fun description _ => ?_
    exact walks_nil ⟨⟨correlationId, isSuccess, statusCode, description⟩, rfl⟩

def TimesRead (ms : Members) : Inbound → Prop
  | .notification =>
    (∃ enqueued instant, ms.last? Key.enqueuedTimeUtc.name = some (.text enqueued) ∧
      Timestamp.utc enqueued = .ok instant) ∧
    ∃ updated instant, ms.last? Key.lastUpdatedTime.name = some (.text updated) ∧
      Timestamp.zoned updated = .ok instant
  | .response | .statusReport => True

theorem Concludes.accepted_iff {kind : Inbound} {ms : Members}
    {result : Except Rejection kind.Message} (h : kind.Concludes ms result) :
    (∃ m, result = .ok m) ↔ kind.TimesRead ms := by
  cases kind with
  | notification =>
    obtain ⟨enqueued, updated, he, hu, timed⟩ := h
    simp only [TimesRead, he, hu, Option.some.injEq, Json.Value.text.injEq, exists_and_left,
      exists_eq_left']
    cases timed with
    | enqueuedRejected h => simp [h]
    | updatedRejected h h' => simp [h']
    | accepted h h' => simp [h, h']
  | response => exact ⟨fun _ => trivial, fun _ => h⟩
  | statusReport => exact ⟨fun _ => trivial, fun _ => h⟩

theorem ofMembers_accepted_iff {kind : Inbound} {ms : Members}
    (typed : Payload.Typed kind.schema ms) :
    (∃ m, (kind.form.ofMembers ms).result = .ok m) ↔ Sound ms kind.order ∧ kind.TimesRead ms := by
  obtain ⟨blames, concludes⟩ := walks typed
  rcases sound_or_firstFlaw ms kind.order with sound | ⟨key, fault, first⟩
  · rw [(concludes sound).accepted_iff, and_iff_right sound]
  · simp [blames key fault first, first.not_sound]

/-- A message is accepted just if its values are of their kinds, no key has a flaw and its times
can be read. -/
theorem ofJson_accepted_iff {kind : Inbound} {text : String} {ms : Members}
    (writes : IsTextOf (.object ms) text.toList) :
    (∃ m, (kind.ofJson text).result = .ok m) ↔
      Payload.Typed kind.schema ms ∧ Sound ms kind.order ∧ kind.TimesRead ms := by
  constructor
  · rintro ⟨m, accepted⟩
    obtain ⟨ms', writes', typed, built⟩ := exists_members_of_accepted accepted
    cases writes'.unique writes
    exact ⟨typed, (ofMembers_accepted_iff typed).mp ⟨m, built⟩⟩
  · rintro ⟨typed, fine⟩
    have payload := (Payload.members_eq_ok_iff kind.isNarrow_of_mem_schema).mpr ⟨writes, typed⟩
    rw [ofJson_of_members payload]
    exact (ofMembers_accepted_iff typed).mpr fine

theorem Concludes.blames_no_field {kind : Inbound} {ms : Members}
    {result : Except Rejection kind.Message} (h : kind.Concludes ms result) {field : String}
    {fault : Field.Fault} : result ≠ .error (.invalidField field fault) := by
  rintro rfl
  cases kind with
  | notification =>
    obtain ⟨enqueued, updated, -, -, timed⟩ := h
    cases timed
  | response =>
    obtain ⟨m, accepted⟩ := h
    cases accepted
  | statusReport =>
    obtain ⟨m, accepted⟩ := h
    cases accepted

end Inbound

/-- Of a payload whose values are of the declared kinds the first flaw is reported, and times only
where there is none. Without flaws a message is built of the values, if its times are right. -/
theorem first_flaw_decides {kind : Inbound} {text : String} {ms : Members}
    (writes : IsTextOf (.object ms) text.toList) (typed : Payload.Typed kind.schema ms) :
    (∀ field fault, (kind.ofJson text).result = .error (.invalidField field fault) ↔
      ∃ key, key.name = field ∧ FirstFlaw ms kind.order key fault) ∧
    (∀ time fault, (kind.ofJson text).result = .error (.invalidTimestamp time fault) →
      Sound ms kind.order) ∧
    (Sound ms kind.order → kind.Concludes ms (kind.ofJson text).result) ∧
    ∀ m, (kind.ofJson text).result = .ok m → kind.Shows m ms := by
  have payload := (Payload.members_eq_ok_iff kind.isNarrow_of_mem_schema).mpr ⟨writes, typed⟩
  rw [Inbound.ofJson_of_members payload]
  obtain ⟨blames, concludes⟩ := Inbound.walks typed
  refine ⟨fun field fault => ⟨fun blamed => ?_, ?_⟩, fun time fault rejected => ?_, concludes,
    fun m accepted => Inbound.shows_of_ofMembers accepted⟩
  · rcases sound_or_firstFlaw ms kind.order with sound | ⟨key, fault', first⟩
    · exact absurd blamed (concludes sound).blames_no_field
    · have same := (blames key fault' first).symm.trans blamed
      cases same
      exact ⟨key, rfl, first⟩
  · rintro ⟨key, rfl, first⟩
    exact blames key fault first
  · rcases sound_or_firstFlaw ms kind.order with sound | ⟨key, fault', first⟩
    · exact sound
    · have same := (blames key fault' first).symm.trans rejected
      cases same

/-- A notification of which only the last device id is sound. -/
def spoiledText : String :=
  "\x7b\"blobSizeInBytes\":null,\"deviceId\":\"\",\"blobName\":\"\"," ++
    "\"blobUri\":\"caf\\u00e9\", \"deviceId\":\"mydevice\"\x7d"

def spoiledMembers : Members :=
  [("blobSizeInBytes", .null), ("deviceId", .text ""), ("blobName", .text ""),
   ("blobUri", .text "café"), ("deviceId", .text "mydevice")]

/-- The address of the blob is the second key to be checked, and the first with a flaw. -/
theorem first_flaw_decides_spoiledText :
    (Inbound.notification.ofJson spoiledText).result =
      .error (.invalidField "blobUri" .multiByte) := by
  have writes : IsTextOf (.object spoiledMembers) spoiledText.toList :=
    Json.read_eq_ok_iff.mp (by rfl)
  have typed : Payload.Typed Inbound.notification.schema spoiledMembers :=
    (Payload.firstMistyped?_eq_none_iff Inbound.notification.isNarrow_of_mem_schema).mp rfl
  exact ((first_flaw_decides writes typed).1 _ _).mpr
    ⟨.blobUri, rfl, .later (FieldText.no_flaw ⟨"mydevice", by decide, by decide⟩)
      (.here (.multiByte (by decide)))⟩

end UploadMessages
