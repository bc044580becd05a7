import UploadMessages.Proofs.Json.Soundness

/-! # A value in its place

The text of an object with one value left out is a slot for it. Whatever value is written there,
the text around it keeps its meaning; every text of an object is such a slot, filled, for the
last value of each of its keys.
-/

namespace UploadMessages.Json

variable {room : Nat} {ms later : Members} {key : String} {v : Value} {cs ds es : List Char}

def TrailMembers (room : Nat) (later : Members) (cs : List Char) : Prop :=
  later = [] ∧ IsGap cs ∨
    ∃ gap ds, IsGap gap ∧ Spelling room (.members later) ds ∧ cs = gap ++ ',' :: ds

theorem TrailMembers.append (h : TrailMembers room later es)
    (earlier : Spelling room (.members ms) ds) :
    Spelling room (.members (ms ++ later)) (ds ++ es) := by
  obtain ⟨rfl, blank⟩ | ⟨gap, fs, blank, spelled, rfl⟩ := h
  · rw [List.append_nil]
    exact spelling_members_gap earlier blank
  · rw [← List.append_assoc]
    exact spelling_members_append (spelling_members_gap earlier blank) spelled

/-- A gap, a comma or a closing bracket follows a member, and each of these ends a number. -/
theorem TrailMembers.exists_delimiter (h : TrailMembers room later es) (ds : List Char) :
    ∃ c cs, State.IsDelimiter c ∧ es ++ '\x7d' :: ds = c :: cs := by
  have delimits (gap : List Char) (blank : IsGap gap) {c : Char} (hc : State.IsDelimiter c)
      (cs : List Char) : ∃ c' cs', State.IsDelimiter c' ∧ gap ++ c :: cs = c' :: cs' := by
    cases gap with
    | nil => exact ⟨c, cs, hc, rfl⟩
    | cons space gap => exact ⟨space, _, .inl (blank space List.mem_cons_self), rfl⟩
  obtain ⟨rfl, blank⟩ | ⟨gap, fs, blank, -, rfl⟩ := h
  · exact delimits es blank (.inr (.inr (.inr rfl))) ds
  · rw [List.append_assoc]
    exact delimits gap blank (.inr (.inl rfl)) (fs ++ '\x7d' :: ds)

theorem TrailMembers.member {gap ks gap' : List Char} (h : TrailMembers room later es)
    (blank : IsGap gap) (named : KeySpelling key ks) (value : Spelling room (.value v) cs)
    (blank' : IsGap gap') :
    TrailMembers room (later ++ [(key, v)]) (es ++ ',' :: gap ++ ks ++ cs ++ gap') := by
  obtain ⟨rfl, before⟩ | ⟨gap₀, fs, before, spelled, rfl⟩ := h
  · exact .inr ⟨es, _, before, .firstMember blank named value blank', by simp⟩
  · exact .inr ⟨gap₀, _, before, .nextMember spelled blank named value blank', by simp⟩

/-- The spellings of members of which the last with a key stands between others. -/
inductive LastSpelling (room : Nat) (key : String) (v : Value) : Members → List Char → Prop
  | intro {earlier later : Members} {lead ks cs trail : List Char}
    (others : ∀ member ∈ later, member.1 ≠ key) (led : LeadMembers room earlier.reverse lead)
    (named : KeySpelling key ks) (value : Spelling room (.value v) cs)
    (trailed : TrailMembers room later trail) :
    LastSpelling room key v (earlier ++ (key, v) :: later) (lead ++ ks ++ cs ++ trail)

theorem lastSpelling_of_last? (h : Spelling room (.members ms) cs) (last : ms.last? key = some v) :
    LastSpelling room key v ms cs := by
  generalize hp : Phrase.members ms = phrase at h
  induction h generalizing ms with
  | @firstMember room key' v' _ _ _ _ before named value after _ =>
    cases hp
    rw [← List.nil_append [_], Members.last?_append_singleton] at last
    split at last
    · subst key'
      cases last
      exact @LastSpelling.intro room key _ [] [] _ _ _ _ (by simp) (.inl ⟨rfl, before⟩) named value
        (.inl ⟨rfl, after⟩)
    · cases last
  | @nextMember room ms key' v' ds gap ks cs gap' spelled before named value after ih _ =>
    cases hp
    rw [Members.last?_append_singleton] at last
    split at last
    · subst key'
      cases last
      have led : LeadMembers room ms.reverse (ds ++ ',' :: gap) :=
        .inr ⟨ds, gap, by simpa using spelled, before, rfl⟩
      simpa using LastSpelling.intro (by simp) led named value (.inl ⟨rfl, after⟩)
    · rename_i other
      obtain ⟨others, led, named', value', trailed⟩ := ih last rfl
      have others' := List.forall_mem_append.mpr
        ⟨others, List.forall_mem_singleton.mpr (show (key', v').1 ≠ key from Ne.symm other)⟩
      simpa using LastSpelling.intro others' led named' value'
        (trailed.member before named value after)
  | _ => cases hp

namespace State

variable {places : List Place} {before : Members}

/-- Members and their commas lead to where a key may begin. -/
theorem run_lead (depth : places.length + room < maxDepth) (h : LeadMembers room before cs) :
    ∃ s, run ⟨places, .firstKey⟩ cs = .ok s ∧ step s '"' = .ok ⟨places, .key before .empty⟩ := by
  obtain ⟨rfl, blank⟩ | ⟨ds, gap, spelled, blank, rfl⟩ := h
  · have idle (c : Char) (hc : IsSpace c) :
        step ⟨places, .firstKey⟩ c = .ok ⟨places, .firstKey⟩ := by simp [step, next, hc]
    exact ⟨_, run_gap blank idle, rfl⟩
  · obtain ⟨t, ht, settled⟩ := takes_spelling spelled places depth
    rw [List.reverse_reverse] at settled
    have comma : step ⟨places, .afterMember before⟩ ',' = .ok ⟨places, .nextKey before⟩ := rfl
    have idle (c : Char) (hc : IsSpace c) :
        step ⟨places, .nextKey before⟩ c = .ok ⟨places, .nextKey before⟩ := by
      simp [step, next, hc]
    refine ⟨⟨places, .nextKey before⟩, ?_, rfl⟩
    rw [run_append_of_run ht,
      run_cons_of_step ((settled.step_eq (.inr (.inl rfl))).trans comma), run_gap blank idle]

/-- What opens an object up to the value of a key leads to where the value is awaited, and nothing
else leads there. -/
theorem run_eq_ok_iff_opened :
    initial.run cs = .ok ⟨[.member before key], .value⟩ ↔ Opened [.member before key] cs := by
  refine ⟨fun h => holds_run holds_initial h, ?_⟩
  rintro ⟨-, gap, lead, ks, blank, led, named, rfl⟩
  have opens : step ⟨[], .value⟩ '\x7b' = .ok ⟨[], .firstKey⟩ := rfl
  have depth : ([] : List Place).length + (127 - (0 + 1)) < maxDepth := by decide
  obtain ⟨s, reached, enter⟩ := run_lead depth led
  rw [List.append_assoc, initial, run_append_of_run (run_gap blank fun c => idle_value),
    List.cons_append, run_cons_of_step opens, run_append_of_run reached, run_key enter named]

/-- A delimiter ends a number that is too large. -/
theorem step_of_overflows {n : OpenNumber} {l : Literal} {c : Char} (ends : n.literal? = some l)
    (overflows : l.Overflows) (hc : IsDelimiter c) :
    step ⟨places, .number n⟩ c = .error .numberOverflow := by
  simp only [step, next_of_literal ends hc.ends, takeNumber, overflows, if_true]
  rfl

end State

/-- The text of an object without the value of one of its members, which has the key. -/
structure Slot (key : String) where
  earlier : Members
  later : Members
  before : List Char
  after : List Char
  opened : Opened [.member earlier.reverse key] before
  closed : ∃ es gap, TrailMembers 126 later es ∧ IsGap gap ∧ after = es ++ '\x7d' :: gap

namespace Slot

def fill (slot : Slot key) (cs : List Char) : List Char := slot.before ++ cs ++ slot.after

def members (slot : Slot key) (v : Value) : Members := slot.earlier ++ (key, v) :: slot.later

def IsLast (slot : Slot key) : Prop := ∀ member ∈ slot.later, member.1 ≠ key

theorem last?_members (slot : Slot key) (h : slot.IsLast) (v : Value) :
    (slot.members v).last? key = some v := by
  have absent : slot.later.reverse.lookup key = none :=
    List.lookup_eq_none_iff.mpr fun member mem =>
      bne_iff_ne.mpr (h member (List.mem_reverse.mp mem)).symm
  simp [Members.last?, members, List.lookup_append, absent]

theorem last?_members_of_ne (slot : Slot key) {key' : String} (h : key' ≠ key) (v v' : Value) :
    (slot.members v).last? key' = (slot.members v').last? key' := by
  simp [Members.last?, members, List.lookup_append, List.lookup_cons, beq_false_of_ne h]

/-- Every text of an object is a slot for the last value of a key, filled with a spelling of it. -/
theorem exists_of_isTextOf (writes : IsTextOf (.object ms) cs) (last : ms.last? key = some v) :
    ∃ slot : Slot key, slot.IsLast ∧ slot.members v = ms ∧
      ∃ ds, Spelling 126 (.value v) ds ∧ slot.fill ds = cs := by
  obtain ⟨gap, body, gap', blank, spelled, blank', rfl⟩ := writes
  cases spelled with
  | emptyObject => cases last
  | object spelled =>
    obtain @⟨earlier, later, lead, ks, ds, trail, others, led, named, value, trailed⟩ :=
      lastSpelling_of_last? spelled last
    have opened : Opened [.member earlier.reverse key] (gap ++ '\x7b' :: lead ++ ks) :=
      ⟨by decide, gap, lead, ks, blank, led, named, rfl⟩
    exact ⟨⟨earlier, later, _, trail ++ '\x7d' :: gap', opened, trail, gap', trailed, blank', rfl⟩,
      others, rfl, ds, value, by simp [fill]⟩

theorem isTextOf_fill (slot : Slot key) (value : Spelling 126 (.value v) cs) :
    IsTextOf (.object (slot.members v)) (slot.fill cs) := by
  obtain ⟨earlier, later, before, after, ⟨-, gap, lead, ks, blank, led, named, rfl⟩,
    es, gap', trail, blank', rfl⟩ := slot
  have front : Spelling 126 (.members (earlier ++ [(key, v)])) (lead ++ ks ++ cs) := by
    simpa using LeadMembers.member led named value
  have body := Spelling.object (trail.append front)
  rw [List.append_assoc] at body
  exact ⟨gap, _, gap', blank, body, blank', by simp [fill]⟩

/-- Around a number that is too large nothing makes a JSON text. -/
theorem read_of_overflows (slot : Slot key) {l : Literal} (literal : LiteralSpelling l cs)
    (overflows : l.Overflows) : read (slot.fill cs) = .error .numberOverflow := by
  obtain ⟨es, gap, trail, -, follows⟩ := slot.closed
  obtain ⟨c, later, delimits, begins⟩ := trail.exists_delimiter gap
  obtain ⟨n, reached, ends⟩ :=
    @State.run_literal [.member slot.earlier.reverse key] l cs literal
  have fails := @State.step_of_overflows [.member slot.earlier.reverse key] n l c ends overflows
    delimits
  apply State.read_of_run_error
  rw [fill, List.append_assoc, State.run_append_of_run (State.run_eq_ok_iff_opened.mpr slot.opened),
    State.run_append_of_run reached, follows, begins, State.run_cons_of_error fails]

/-- What is written around a literal is the object with its number. -/
theorem eq_of_isTextOf (slot : Slot key) {l : Literal} (literal : LiteralSpelling l cs)
    (writes : IsTextOf v (slot.fill cs)) : v = .object (slot.members (.number l)) := by
  have fits : ¬l.Overflows := fun overflows => by
    cases (slot.read_of_overflows literal overflows).symm.trans (read_of_isTextOf writes)
  exact writes.unique (slot.isTextOf_fill (.number literal fits))

end Slot

end UploadMessages.Json
