import UploadMessages.Proofs.Json.Tokens

/-! # The reader takes every spelling

Read where a value is awaited, each spelling of a value leads to the state after
the value, whatever else is open. A number leads there only with the delimiter
that follows it; until then its state is open, but settled.
-/

namespace UploadMessages.Json

namespace State

variable {places : List Place} {s s' t : State}

/-- A state that the next delimiter treats as another: the same one, or that of a number which
may end, while the other is the state after it. -/
def Settles (s s' : State) : Prop :=
  s = s' ∨ ∃ places n l, s = ⟨places, .number n⟩ ∧ n.literal? = some l ∧ ¬l.Overflows ∧
    s' = complete places (.number l)

theorem Settles.refl (s : State) : Settles s s := .inl rfl

def IsDelimiter (c : Char) : Prop := IsSpace c ∨ c = ',' ∨ c = ']' ∨ c = '\x7d'

def EndsNumber (c : Char) : Prop :=
  Digit.ofChar? 10 c = none ∧ c ≠ '.' ∧ ¬OpenNumber.IsMark c

theorem IsDelimiter.ends {c : Char} (h : IsDelimiter c) : EndsNumber c := by
  rcases h with (rfl | rfl | rfl | rfl) | rfl | rfl | rfl <;>
    exact ⟨by decide, by decide, by decide⟩

theorem next_of_literal {n : OpenNumber} {l : Literal} {c : Char} (h : n.literal? = some l)
    (ends : EndsNumber c) : n.next c = .ok (.done l) := by
  obtain ⟨hd, hp, hm⟩ := ends
  cases n <;> simp_all [OpenNumber.literal?, OpenNumber.next, OpenNumber.sign?]

theorem step_complete (v : Value) (c : Char) :
    step (complete places v) c = next (complete places v) c := by
  rcases places with _ | ⟨_ | _, _⟩ <;> rfl

theorem Settles.step_eq_of_ends {c : Char} (h : Settles s s') (ends : EndsNumber c) :
    step s c = step s' c := by
  obtain rfl | ⟨places, n, l, rfl, hl, fits, rfl⟩ := h
  · rfl
  · rw [step_complete]
    simp only [step, next_of_literal hl ends, takeNumber, fits, if_false]
    rfl

theorem Settles.step_eq {c : Char} (h : Settles s s') (hc : IsDelimiter c) :
    step s c = step s' c := h.step_eq_of_ends hc.ends

theorem Settles.finish_eq (h : Settles s s') : finish s = finish s' := by
  obtain rfl | ⟨places, n, l, rfl, hl, fits, rfl⟩ := h
  · rfl
  · simp only [finish, hl, takeNumber, fits, if_false]
    rcases places with _ | ⟨_ | _, _⟩ <;> rfl

theorem run_gap {gap : List Char} (blank : IsGap gap) (idle : ∀ c, IsSpace c → step s c = .ok s) :
    run s gap = .ok s := by
  induction gap with
  | nil => rfl
  | cons c cs ih =>
    rw [run_cons_of_step (idle c (blank c List.mem_cons_self))]
    exact ih fun d hd => blank d (List.mem_cons_of_mem c hd)

/-- Spaces may follow where they change nothing. -/
theorem Settles.run_gap (h : Settles s s') {gap : List Char} (blank : IsGap gap)
    (idle : ∀ c, IsSpace c → step s' c = .ok s') : ∃ t, run s gap = .ok t ∧ Settles t s' := by
  cases gap with
  | nil => exact ⟨s, rfl, h⟩
  | cons c cs =>
    have hc : IsSpace c := blank c List.mem_cons_self
    refine ⟨s', ?_, .refl s'⟩
    rw [run_cons_of_step ((h.step_eq (.inl hc)).trans (idle c hc))]
    exact State.run_gap (fun d hd => blank d (List.mem_cons_of_mem c hd)) idle

theorem idle_value {c : Char} (h : IsSpace c) : step ⟨places, .value⟩ c = .ok ⟨places, .value⟩ := by
  simp [step, next, h]

theorem idle_afterItem (items : List Value) {c : Char} (h : IsSpace c) :
    step ⟨places, .afterItem items⟩ c = .ok ⟨places, .afterItem items⟩ := by
  simp [step, next, h]

theorem idle_afterMember (members : Members) {c : Char} (h : IsSpace c) :
    step ⟨places, .afterMember members⟩ c = .ok ⟨places, .afterMember members⟩ := by
  simp [step, next, h]

theorem idle_colon (before : Members) (key : String) {c : Char} (h : IsSpace c) :
    step ⟨places, .colon before key⟩ c = .ok ⟨places, .colon before key⟩ := by
  simp [step, next, h]

def starters : List Char :=
  ['n', 't', 'f', '"', '[', '\x7b', '-', '0', '1', '2', '3', '4', '5', '6', '7', '8', '9']

/-- No value begins like a gap or like the end of a list. -/
theorem enter_of_mem_starters : ∀ c ∈ starters, ¬IsSpace c ∧ c ≠ ']' := by
  simp [starters, IsSpace]

theorem literal_begins {l : Literal} {cs : List Char} (h : LiteralSpelling l cs) :
    ∃ c ∈ starters, ∃ rest, cs = c :: rest := by
  obtain ⟨whole, fraction, power⟩ := h
  obtain ⟨d, ds, hd⟩ := List.exists_cons_of_ne_nil whole.1
  have digit : ∀ d : Digit 10, d.char ∈ starters := by decide
  rw [hd]
  cases l.negative with
  | false => exact ⟨d.char, digit d, _, rfl⟩
  | true => exact ⟨'-', by decide, _, rfl⟩

theorem spelling_begins {room : Nat} {v : Value} {cs : List Char}
    (h : Spelling room (.value v) cs) : ∃ c ∈ starters, ∃ rest, cs = c :: rest := by
  cases h with
  | number literal _ => exact literal_begins literal
  | _ => exact ⟨_, by decide, _, rfl⟩

/-- What the reader makes of a spelling: the state after the value, or after the last item or
member of a bracket that is read from its start. -/
def Takes (room : Nat) (cs : List Char) : Phrase → Prop
  | .value v => ∀ places : List Place, places.length + room ≤ maxDepth →
    ∃ s, run ⟨places, .value⟩ cs = .ok s ∧ Settles s (complete places v)
  | .items vs => ∀ places : List Place, places.length + room < maxDepth →
    ∃ s, run ⟨places, .firstItem⟩ cs = .ok s ∧ Settles s ⟨places, .afterItem vs.reverse⟩
  | .members ms => ∀ places : List Place, places.length + room < maxDepth →
    ∃ s, run ⟨places, .firstKey⟩ cs = .ok s ∧ Settles s ⟨places, .afterMember ms.reverse⟩

variable {room : Nat} {v : Value} {ds gap ks cs gap' : List Char}

/-- One item, read from a state in which items before it are known. -/
theorem run_item {before : List Value} (idle : ∀ c, IsSpace c → step s c = .ok s)
    (enter : ∀ c, ¬IsSpace c → c ≠ ']' → step s c = step ⟨.item before :: places, .value⟩ c)
    (blank : IsGap gap) (value : Spelling room (.value v) cs) (takes : Takes room cs (.value v))
    (blank' : IsGap gap') (depth : places.length + room < maxDepth) :
    ∃ t, run s (gap ++ cs ++ gap') = .ok t ∧ Settles t ⟨places, .afterItem (v :: before)⟩ := by
  obtain ⟨t, ht, settled⟩ := takes (.item before :: places) (by simp only [List.length_cons]; omega)
  have entered : run s cs = .ok t := by
    obtain ⟨c, hc, rest, rfl⟩ := spelling_begins value
    obtain ⟨hs, hb⟩ := enter_of_mem_starters c hc
    rw [← ht]
    simp only [run, List.foldlM_cons, enter c hs hb]
  obtain ⟨t', ht', settled'⟩ := settled.run_gap blank' fun c => idle_afterItem (v :: before)
  refine ⟨t', ?_, settled'⟩
  rw [List.append_assoc, run_append_of_run (run_gap blank idle), run_append_of_run entered, ht']

/-- A key and its colon lead to where the value of the key is awaited. -/
theorem run_key {before : Members} {key : String}
    (enter : step s '"' = .ok ⟨places, .key before .empty⟩) (named : KeySpelling key ks) :
    run s ks = .ok ⟨.member before key :: places, .value⟩ := by
  obtain @⟨text, gap, gap', spelled, blank, blank'⟩ := named
  have colon : step ⟨places, .colon before key⟩ ':' =
      .ok ⟨.member before key :: places, .value⟩ := rfl
  rw [List.append_assoc, List.cons_append, List.cons_append, run_cons_of_step enter,
    (readsText_key before).run_quoted spelled,
    run_append_of_run (run_gap blank fun c => idle_colon before key), run_cons_of_step colon,
    run_gap blank' fun c => idle_value]

/-- One member, read from a state in which members before it are known. -/
theorem run_member {before : Members} {key : String}
    (idle : ∀ c, IsSpace c → step s c = .ok s)
    (enter : step s '"' = .ok ⟨places, .key before .empty⟩) (blank : IsGap gap)
    (named : KeySpelling key ks) (takes : Takes room cs (.value v)) (blank' : IsGap gap')
    (depth : places.length + room < maxDepth) :
    ∃ t, run s (gap ++ ks ++ cs ++ gap') = .ok t ∧
      Settles t ⟨places, .afterMember ((key, v) :: before)⟩ := by
  obtain ⟨t, ht, settled⟩ :=
    takes (.member before key :: places) (by simp only [List.length_cons]; omega)
  obtain ⟨t', ht', settled'⟩ :=
    settled.run_gap blank' fun c => idle_afterMember ((key, v) :: before)
  refine ⟨t', ?_, settled'⟩
  rw [List.append_assoc, List.append_assoc, run_append_of_run (run_gap blank idle),
    run_append_of_run (run_key enter named), run_append_of_run ht, ht']

theorem step_open (h : places.length < maxDepth) :
    step ⟨places, .value⟩ '[' = .ok ⟨places, .firstItem⟩ ∧
      step ⟨places, .value⟩ '\x7b' = .ok ⟨places, .firstKey⟩ := by
  constructor <;> simp [step, next, begin, openBracket, IsSpace, h]

/-- A bracket that closes a state which has settled. -/
theorem Settles.run_close {c : Char} (h : Settles s s') (hc : IsDelimiter c)
    (closes : step s' c = .ok t) : run s [c] = .ok t := by
  rw [run_cons_of_step ((h.step_eq hc).trans closes), run_nil]

theorem takes_number {l : Literal} (literal : LiteralSpelling l cs) (fits : ¬l.Overflows) :
    Takes room cs (.value (.number l)) := by
  intro places _
  obtain ⟨n, hn, hl⟩ := @run_literal places _ _ literal
  exact ⟨_, hn, .inr ⟨places, n, _, rfl, hl, fits, rfl⟩⟩

theorem takes_text {text : String} (spelled : TextSpelling text.toList cs) :
    Takes room ('"' :: cs ++ ['"']) (.value (.text text)) := by
  intro places _
  have quote : step ⟨places, .value⟩ '"' = .ok ⟨places, .text .empty⟩ := rfl
  refine ⟨complete places (.text text), ?_, .refl _⟩
  rw [List.cons_append, run_cons_of_step quote, readsText_text.run_quoted spelled, run_nil]

theorem takes_emptyList (blank : IsGap gap) :
    Takes (room + 1) ('[' :: gap ++ [']']) (.value (.list [])) := by
  intro places depth
  have idle (c : Char) (hc : IsSpace c) :
      step ⟨places, .firstItem⟩ c = .ok ⟨places, .firstItem⟩ := by simp [step, next, hc]
  refine ⟨complete places (.list []), ?_, .refl _⟩
  rw [List.cons_append, run_cons_of_step (step_open (by omega)).1,
    run_append_of_run (run_gap blank idle)]
  rfl

theorem takes_list {vs : List Value} (items : Takes room cs (.items vs)) :
    Takes (room + 1) ('[' :: cs ++ [']']) (.value (.list vs)) := by
  intro places depth
  obtain ⟨t, ht, settled⟩ := items places (by omega)
  have closes : step ⟨places, .afterItem vs.reverse⟩ ']' = .ok (complete places (.list vs)) := by
    simp [step, next, IsSpace]
  refine ⟨complete places (.list vs), ?_, .refl _⟩
  rw [List.cons_append, run_cons_of_step (step_open (by omega)).1, run_append_of_run ht]
  exact settled.run_close (by simp [IsDelimiter]) closes

theorem takes_emptyObject (blank : IsGap gap) :
    Takes (room + 1) ('\x7b' :: gap ++ ['\x7d']) (.value (.object [])) := by
  intro places depth
  have idle (c : Char) (hc : IsSpace c) :
      step ⟨places, .firstKey⟩ c = .ok ⟨places, .firstKey⟩ := by simp [step, next, hc]
  refine ⟨complete places (.object []), ?_, .refl _⟩
  rw [List.cons_append, run_cons_of_step (step_open (by omega)).2,
    run_append_of_run (run_gap blank idle)]
  rfl

theorem takes_object {ms : Members} (members : Takes room cs (.members ms)) :
    Takes (room + 1) ('\x7b' :: cs ++ ['\x7d']) (.value (.object ms)) := by
  intro places depth
  obtain ⟨t, ht, settled⟩ := members places (by omega)
  have closes : step ⟨places, .afterMember ms.reverse⟩ '\x7d' =
      .ok (complete places (.object ms)) := by
    simp [step, next, IsSpace]
  refine ⟨complete places (.object ms), ?_, .refl _⟩
  rw [List.cons_append, run_cons_of_step (step_open (by omega)).2, run_append_of_run ht]
  exact settled.run_close (by simp [IsDelimiter]) closes

theorem takes_firstItem (blank : IsGap gap) (value : Spelling room (.value v) cs)
    (takes : Takes room cs (.value v)) (blank' : IsGap gap') :
    Takes room (gap ++ cs ++ gap') (.items [v]) := by
  intro places depth
  refine run_item ?_ ?_ blank value takes blank' depth
  · intro c hc
    simp [step, next, hc]
  · intro c hc hb
    simp [step, next, hc, hb]

theorem takes_nextItem {vs : List Value} (earlier : Takes room ds (.items vs)) (blank : IsGap gap)
    (value : Spelling room (.value v) cs) (takes : Takes room cs (.value v))
    (blank' : IsGap gap') : Takes room (ds ++ ',' :: gap ++ cs ++ gap') (.items (vs ++ [v])) := by
  intro places depth
  obtain ⟨t, ht, settled⟩ := earlier places depth
  have comma : step ⟨places, .afterItem vs.reverse⟩ ',' = .ok ⟨places, .nextItem vs.reverse⟩ := rfl
  have last : ∃ t, run ⟨places, .nextItem vs.reverse⟩ (gap ++ cs ++ gap') = .ok t ∧
      Settles t ⟨places, .afterItem (v :: vs.reverse)⟩ := by
    refine run_item ?_ ?_ blank value takes blank' depth
    · intro c hc
      simp [step, next, hc]
    · intro c hc hb
      simp [step, next, hc, hb]
  obtain ⟨t', ht', settled'⟩ := last
  refine ⟨t', ?_, by simpa using settled'⟩
  rw [List.append_assoc, List.append_assoc, List.cons_append, run_append_of_run ht,
    run_cons_of_step ((settled.step_eq (by simp [IsDelimiter])).trans comma), ← ht']
  simp only [List.append_assoc]

theorem takes_firstMember {key : String} (blank : IsGap gap) (named : KeySpelling key ks)
    (takes : Takes room cs (.value v)) (blank' : IsGap gap') :
    Takes room (gap ++ ks ++ cs ++ gap') (.members [(key, v)]) := by
  intro places depth
  refine run_member ?_ rfl blank named takes blank' depth
  intro c hc
  simp [step, next, hc]

theorem takes_nextMember {ms : Members} {key : String} (earlier : Takes room ds (.members ms))
    (blank : IsGap gap) (named : KeySpelling key ks) (takes : Takes room cs (.value v))
    (blank' : IsGap gap') :
    Takes room (ds ++ ',' :: gap ++ ks ++ cs ++ gap') (.members (ms ++ [(key, v)])) := by
  intro places depth
  obtain ⟨t, ht, settled⟩ := earlier places depth
  have comma : step ⟨places, .afterMember ms.reverse⟩ ',' =
      .ok ⟨places, .nextKey ms.reverse⟩ := rfl
  have last : ∃ t, run ⟨places, .nextKey ms.reverse⟩ (gap ++ ks ++ cs ++ gap') = .ok t ∧
      Settles t ⟨places, .afterMember ((key, v) :: ms.reverse)⟩ := by
    refine run_member ?_ rfl blank named takes blank' depth
    intro c hc
    simp [step, next, hc]
  obtain ⟨t', ht', settled'⟩ := last
  refine ⟨t', ?_, by simpa using settled'⟩
  rw [List.append_assoc, List.append_assoc, List.append_assoc, List.cons_append,
    run_append_of_run ht, run_cons_of_step ((settled.step_eq (by simp [IsDelimiter])).trans comma),
    ← ht']
  simp only [List.append_assoc]

/-- A phrase is read at all places that leave room for it, since they grow on the way in. -/
theorem takes_spelling {phrase : Phrase} (h : Spelling room phrase cs) : Takes room cs phrase := by
  induction h with
  | null => exact fun places _ => ⟨_, rfl, .refl _⟩
  | true => exact fun places _ => ⟨_, rfl, .refl _⟩
  | false => exact fun places _ => ⟨_, rfl, .refl _⟩
  | number literal fits => exact takes_number literal fits
  | text spelled => exact takes_text spelled
  | emptyList blank => exact takes_emptyList blank
  | list _ items => exact takes_list items
  | emptyObject blank => exact takes_emptyObject blank
  | object _ members => exact takes_object members
  | firstItem blank value blank' takes => exact takes_firstItem blank value takes blank'
  | nextItem _ blank value blank' earlier takes =>
    exact takes_nextItem earlier blank value takes blank'
  | firstMember blank named _ blank' takes => exact takes_firstMember blank named takes blank'
  | nextMember _ blank named _ blank' earlier takes =>
    exact takes_nextMember earlier blank named takes blank'

/-- A JSON text leads to the state after its value. -/
theorem exists_settles {cs : List Char} (h : IsTextOf v cs) :
    ∃ s, initial.run cs = .ok s ∧ Settles s ⟨[], .finished v⟩ := by
  obtain ⟨before, body, after, blank, spelled, blank', rfl⟩ := h
  obtain ⟨s, hs, settled⟩ := takes_spelling spelled [] (Nat.le_refl _)
  have idle (c : Char) (hc : IsSpace c) :
      step (complete [] v) c = .ok (complete [] v) := by
    simp [step, complete, next, hc]
  obtain ⟨t, ht, settled'⟩ := settled.run_gap blank' idle
  refine ⟨t, ?_, settled'⟩
  rw [List.append_assoc, initial, run_append_of_run (run_gap blank fun c => idle_value),
    run_append_of_run hs, ht]

end State

/-- The reader finds the value of every JSON text. -/
theorem read_of_isTextOf {v : Value} {cs : List Char} (h : IsTextOf v cs) : read cs = .ok v := by
  obtain ⟨s, ran, settled⟩ := State.exists_settles h
  calc read cs = s.finish := State.read_of_run ran
    _ = State.finish ⟨[], .finished v⟩ := settled.finish_eq
    _ = .ok v := rfl

end UploadMessages.Json
