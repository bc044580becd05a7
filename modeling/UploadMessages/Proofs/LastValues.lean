import Mathlib.Data.List.Basic
import UploadMessages.Proofs.Fields

/-! # Only the last values count

Two JSON texts of objects whose last values agree for every declared key are read
alike: the same message, or the same rejection, and the same events. How the texts
are written, what other members they have and what the last values replace makes
no difference. Accepted texts of one message agree in turn.
-/

namespace UploadMessages

open Json (IsTextOf Members)

/-- Whether two objects have the same last value for a key, a null counting as none. -/
def SameLast (ms ms' : Members) (key : Key) : Prop :=
  (ms.last? key.name).getD .null = (ms'.last? key.name).getD .null

namespace SameLast

variable {ms ms' : Members} {key : Key}

theorem eq_or_empty (h : SameLast ms ms' key) : ms.last? key.name = ms'.last? key.name ∨
    (ms.last? key.name = none ∨ ms.last? key.name = some .null) ∧
      (ms'.last? key.name = none ∨ ms'.last? key.name = some .null) := by
  unfold SameLast at h
  generalize ms.last? key.name = v at h ⊢
  generalize ms'.last? key.name = v' at h ⊢
  rcases v with _ | v <;> rcases v' with _ | v'
  · exact .inl rfl
  · exact .inr ⟨.inl rfl, .inr (congrArg some h.symm)⟩
  · exact .inr ⟨.inr (congrArg some h), .inl rfl⟩
  · exact .inl (congrArg some h)

theorem mistyped?_eq (h : SameLast ms ms' key) (kind : Kind) :
    Payload.mistyped? ms key kind = Payload.mistyped? ms' key kind := by
  rcases h.eq_or_empty with same | ⟨absent | null, absent' | null'⟩
  · simp only [Payload.mistyped?, same]
  · simp only [Payload.mistyped?, absent, absent']
  · simp only [Payload.mistyped?, absent, null']
  · simp only [Payload.mistyped?, null, absent']
  · simp only [Payload.mistyped?, null, null']

theorem field?_eq (h : SameLast ms ms' key) (kind : Kind) :
    Payload.field? ms key kind = Payload.field? ms' key kind := by
  have refused : kind.accept? .null = none := by cases kind <;> rfl
  rcases h.eq_or_empty with same | ⟨absent | null, absent' | null'⟩
  · simp only [Payload.field?, same]
  · simp only [Payload.field?, absent, absent']
  · simp [Payload.field?, absent, null', refused]
  · simp [Payload.field?, null, absent', refused]
  · simp only [Payload.field?, null, null']

end SameLast

theorem Payload.firstMistyped?_congr {schema : Schema} {ms ms' : Members}
    (same : ∀ entry ∈ schema, mistyped? ms entry.1 entry.2 = mistyped? ms' entry.1 entry.2) :
    firstMistyped? schema ms = firstMistyped? schema ms' := by
  rw [firstMistyped?, firstMistyped?, ← List.head?_filterMap, ← List.head?_filterMap,
    List.filterMap_congr same]

namespace Inbound

variable {kind : Inbound} {ms ms' : Members}

/-- A message is built from the fields that its kind declares, and from nothing else. -/
theorem ofMembers_congr
    (h : ∀ entry ∈ kind.schema,
      Payload.field? ms entry.1 entry.2 = Payload.field? ms' entry.1 entry.2) :
    kind.form.ofMembers ms = kind.form.ofMembers ms' := by
  cases kind with
  | notification =>
    obtain ⟨hb, hs, hu, hd, he, hl⟩ := Notification.forall_mem_schema.mp h
    simp only [form, Notification.form, Notification.ofMembers, Notification.ofMembers.field,
      hb, hs, hu, hd, he, hl]
  | response =>
    obtain ⟨hb, hn, hc, hh, hs⟩ := Response.forall_mem_schema.mp h
    simp only [form, Response.form, Response.ofMembers, Response.ofMembers.field, hb, hn, hc, hh,
      hs]
  | statusReport =>
    obtain ⟨hc, hi, hs, hd⟩ := StatusReport.forall_mem_schema.mp h
    simp only [form, StatusReport.form, StatusReport.ofMembers, hc, hi, hs, hd]

theorem ofJson_congr {text text' : String} (writes : IsTextOf (.object ms) text.toList)
    (writes' : IsTextOf (.object ms') text'.toList)
    (same : ∀ entry ∈ kind.schema, SameLast ms ms' entry.1) :
    kind.ofJson text = kind.ofJson text' := by
  have faults : Payload.firstMistyped? kind.schema ms = Payload.firstMistyped? kind.schema ms' :=
    Payload.firstMistyped?_congr fun entry declared => (same entry declared).mistyped?_eq entry.2
  have built : kind.form.ofMembers ms = kind.form.ofMembers ms' :=
    ofMembers_congr fun entry declared => (same entry declared).field?_eq entry.2
  rw [ofJson_of_isTextOf writes, ofJson_of_isTextOf writes', faults, built]

/-- The members of an accepted text are those that its message shows. -/
theorem shows_of_ofJson {text : String} {m : kind.Message}
    (writes : IsTextOf (.object ms) text.toList) (h : (kind.ofJson text).result = .ok m) :
    kind.Shows m ms := by
  obtain ⟨ms', writes', -, accepted⟩ := exists_members_of_accepted h
  cases writes'.unique writes
  exact shows_of_ofMembers accepted

end Inbound

/-- The last values of the declared keys decide what is read, and what is accepted decides them. -/
theorem last_values_decide (kind : Inbound) {text text' : String} {ms ms' : Members}
    (writes : IsTextOf (.object ms) text.toList) (writes' : IsTextOf (.object ms') text'.toList) :
    ((∀ entry ∈ kind.schema, SameLast ms ms' entry.1) → kind.ofJson text = kind.ofJson text') ∧
    (∀ m, (kind.ofJson text).result = .ok m → (kind.ofJson text').result = .ok m →
      ∀ entry ∈ kind.schema, SameLast ms ms' entry.1) := by
  refine ⟨Inbound.ofJson_congr writes writes', fun m h h' entry declared => ?_⟩
  obtain ⟨s, shown, from'⟩ := Inbound.shows_of_ofJson writes h entry declared
  obtain ⟨s', shown', from''⟩ := Inbound.shows_of_ofJson writes' h' entry declared
  rw [shown] at shown'
  cases shown'
  rw [SameLast, from'.unique writes writes' from'']

def bareText : String := "\x7b\"hostName\":\"a/b\",\"blobName\":\"d\"\x7d"

def bareMembers : Members := [("hostName", .text "a/b"), ("blobName", .text "d")]

/-- The same response, with a null for the token, in another order and with other members. -/
def ornateText : String :=
  "\x7b\"blobName\":[], \"x\":[\x7b\x7d], \"blobName\":\"\\u0064\",\n" ++
    "\"sasToken\":null, \"hostName\":\"a\\/b\" \x7d"

def ornateMembers : Members :=
  [("blobName", .list []), ("x", .list [.object []]), ("blobName", .text "d"),
   ("sasToken", .null), ("hostName", .text "a/b")]

theorem last_values_decide_ornateText :
    Inbound.response.ofJson bareText = Inbound.response.ofJson ornateText := by
  have writes : IsTextOf (.object bareMembers) bareText.toList :=
    Json.read_eq_ok_iff.mp (by rfl)
  have writes' : IsTextOf (.object ornateMembers) ornateText.toList :=
    Json.read_eq_ok_iff.mp (by rfl)
  apply (last_values_decide .response writes writes').1
  exact Response.forall_mem_schema.mpr ⟨rfl, rfl, rfl, rfl, rfl⟩

end UploadMessages
