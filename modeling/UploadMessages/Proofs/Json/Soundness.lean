import UploadMessages.Proofs.Json.Completeness
import UploadMessages.Proofs.Json.OpenTokens

/-! # The reader takes only spellings

A state says which characters have been read, up to the choices that the grammar
leaves. One more character keeps this so, and a text that ends in a value has
been spelled. With the converse, the reader decides the grammar.
-/

namespace UploadMessages.Json

variable {room : Nat} {c : Char} {cs ds es : List Char}

def LeadItems (room : Nat) (before : List Value) (cs : List Char) : Prop :=
  before = [] ∧ IsGap cs ∨
    ∃ ds gap, Spelling room (.items before.reverse) ds ∧ IsGap gap ∧ cs = ds ++ ',' :: gap

def LeadMembers (room : Nat) (before : Members) (cs : List Char) : Prop :=
  before = [] ∧ IsGap cs ∨
    ∃ ds gap, Spelling room (.members before.reverse) ds ∧ IsGap gap ∧ cs = ds ++ ',' :: gap

theorem LeadItems.space {before : List Value} (h : LeadItems room before cs)
    (hc : State.IsSpace c) : LeadItems room before (cs ++ [c]) := by
  obtain ⟨rfl, blank⟩ | ⟨ds, gap, spelled, blank, rfl⟩ := h
  · exact .inl ⟨rfl, blank.snoc hc⟩
  · exact .inr ⟨ds, gap ++ [c], spelled, blank.snoc hc, by simp⟩

theorem LeadMembers.space {before : Members} (h : LeadMembers room before cs)
    (hc : State.IsSpace c) : LeadMembers room before (cs ++ [c]) := by
  obtain ⟨rfl, blank⟩ | ⟨ds, gap, spelled, blank, rfl⟩ := h
  · exact .inl ⟨rfl, blank.snoc hc⟩
  · exact .inr ⟨ds, gap ++ [c], spelled, blank.snoc hc, by simp⟩

theorem LeadItems.item {before : List Value} {v : Value} (h : LeadItems room before ds)
    (value : Spelling room (.value v) es) :
    Spelling room (.items (v :: before).reverse) (ds ++ es) := by
  obtain ⟨rfl, blank⟩ | ⟨ds, gap, spelled, blank, rfl⟩ := h
  · simpa using Spelling.firstItem blank value isGap_nil
  · simpa using Spelling.nextItem spelled blank value isGap_nil

theorem LeadMembers.member {before : Members} {key : String} {v : Value} {ks : List Char}
    (h : LeadMembers room before ds) (named : KeySpelling key ks)
    (value : Spelling room (.value v) es) :
    Spelling room (.members ((key, v) :: before).reverse) (ds ++ ks ++ es) := by
  obtain ⟨rfl, blank⟩ | ⟨ds, gap, spelled, blank, rfl⟩ := h
  · simpa using Spelling.firstMember blank named value isGap_nil
  · simpa using Spelling.nextMember spelled blank named value isGap_nil

/-- Nothing leads to the first item of a list but a gap. -/
theorem LeadItems.isGap (h : LeadItems room [] cs) : IsGap cs := by
  obtain ⟨-, blank⟩ | ⟨ds, gap, spelled, -, -⟩ := h
  · exact blank
  · generalize hvs : List.reverse [] = vs at spelled
    cases spelled with
    | firstItem => simp at hvs
    | nextItem => simp at hvs

theorem LeadMembers.isGap (h : LeadMembers room [] cs) : IsGap cs := by
  obtain ⟨-, blank⟩ | ⟨ds, gap, spelled, -, -⟩ := h
  · exact blank
  · generalize hms : List.reverse [] = ms at spelled
    cases spelled with
    | firstMember => simp at hms
    | nextMember => simp at hms

/-- Spaces after an item belong to the item. -/
theorem spelling_items_space {vs : List Value} (h : Spelling room (.items vs) cs)
    (hc : State.IsSpace c) : Spelling room (.items vs) (cs ++ [c]) := by
  cases h with
  | firstItem before value after =>
    simpa using Spelling.firstItem before value (after.snoc hc)
  | nextItem earlier before value after =>
    simpa using Spelling.nextItem earlier before value (after.snoc hc)

theorem KeySpelling.space {key : String} (h : KeySpelling key cs) (hc : State.IsSpace c) :
    KeySpelling key (cs ++ [c]) := by
  obtain ⟨text, before, after⟩ := h
  simpa using KeySpelling.intro text before (after.snoc hc)

def roomAt (places : List Place) : Nat := 127 - places.length

/-- These characters lead to the innermost place, where a value is awaited. -/
def Opened : List Place → List Char → Prop
  | [], cs => IsGap cs
  | .item before :: outer, cs => outer.length < 127 ∧
    ∃ ds es, Opened outer ds ∧ LeadItems (127 - (outer.length + 1)) before es ∧ cs = ds ++ '[' :: es
  | .member before key :: outer, cs => outer.length < 127 ∧
    ∃ ds es ks, Opened outer ds ∧ LeadMembers (127 - (outer.length + 1)) before es ∧
      KeySpelling key ks ∧ cs = ds ++ '\x7b' :: es ++ ks

def OpenedObject (places : List Place) (before : Members) (cs : List Char) : Prop :=
  places.length < 127 ∧ ∃ ds es, Opened places ds ∧
    LeadMembers (127 - (places.length + 1)) before es ∧ cs = ds ++ '\x7b' :: es

theorem Opened.space {places : List Place} (h : Opened places cs) (hc : State.IsSpace c) :
    Opened places (cs ++ [c]) := by
  match places, h with
  | [], blank => exact IsGap.snoc blank hc
  | .item before :: outer, ⟨depth, ds, es, opened, lead, h⟩ =>
    exact ⟨depth, ds, es ++ [c], opened, lead.space hc, by simp [h]⟩
  | .member before key :: outer, ⟨depth, ds, es, ks, opened, lead, named, h⟩ =>
    exact ⟨depth, ds, es, ks ++ [c], opened, lead, named.space hc, by simp [h]⟩

theorem OpenedObject.space {places : List Place} {before : Members}
    (h : OpenedObject places before cs) (hc : State.IsSpace c) :
    OpenedObject places before (cs ++ [c]) := by
  obtain ⟨depth, ds, es, opened, lead, rfl⟩ := h
  exact ⟨depth, ds, es ++ [c], opened, lead.space hc, by simp⟩

namespace State

/-- The state has been reached by these characters. -/
def Holds (s : State) (cs : List Char) : Prop :=
  match s.mode with
  | .value => Opened s.places cs
  | .firstItem => Opened (.item [] :: s.places) cs
  | .nextItem before => Opened (.item before :: s.places) cs
  | .firstKey => OpenedObject s.places [] cs
  | .nextKey before => OpenedObject s.places before cs
  | .key before t => ∃ ds es, OpenedObject s.places before ds ∧ t.Holds es ∧ cs = ds ++ '"' :: es
  | .colon before key => ∃ ds es gap, OpenedObject s.places before ds ∧
    TextSpelling key.toList es ∧ IsGap gap ∧ cs = ds ++ '"' :: es ++ '"' :: gap
  | .text t => ∃ ds es, Opened s.places ds ∧ t.Holds es ∧ cs = ds ++ '"' :: es
  | .keyword expected rest v => ∃ ds es, Opened s.places ds ∧
    Spelling (roomAt s.places) (.value v) (es ++ expected :: rest) ∧ cs = ds ++ es
  | .number n => ∃ ds es, Opened s.places ds ∧ n.Holds es ∧ cs = ds ++ es
  | .afterItem items => s.places.length < 127 ∧ ∃ ds es, Opened s.places ds ∧
    Spelling (127 - (s.places.length + 1)) (.items items.reverse) es ∧ cs = ds ++ '[' :: es
  | .afterMember members => s.places.length < 127 ∧ ∃ ds es, Opened s.places ds ∧
    Spelling (127 - (s.places.length + 1)) (.members members.reverse) es ∧ cs = ds ++ '\x7b' :: es
  | .finished v => IsTextOf v cs

variable {s s' : State} {places : List Place} {v : Value}

theorem holds_complete (opened : Opened places ds)
    (spelled : Spelling (roomAt places) (.value v) es) : (complete places v).Holds (ds ++ es) := by
  match places, opened with
  | [], blank => exact ⟨ds, es, [], blank, spelled, isGap_nil, by simp⟩
  | .item before :: outer, ⟨depth, ds, lead, opened, led, h⟩ =>
    exact ⟨depth, ds, lead ++ es, opened, led.item spelled, by simp [h]⟩
  | .member before key :: outer, ⟨depth, ds, lead, ks, opened, led, named, h⟩ =>
    exact ⟨depth, ds, lead ++ ks ++ es, opened, led.member named spelled, by simp [h]⟩

theorem roomAt_eq (depth : places.length < 127) :
    roomAt places = 127 - (places.length + 1) + 1 := by
  unfold roomAt
  omega

/-- What follows the first character of a value is kept in the state. -/
theorem holds_begin (opened : Opened places cs) (h : begin places c = .ok s') :
    s'.Holds (cs ++ [c]) := by
  unfold begin at h
  split at h
  · subst c
    cases h
    exact ⟨cs, [], opened, OpenText.holds_empty, rfl⟩
  split at h
  · subst c
    unfold openBracket at h
    split at h
    · rename_i depth
      cases h
      exact ⟨depth, cs, [], opened, .inl ⟨rfl, isGap_nil⟩, rfl⟩
    · cases h
  split at h
  · subst c
    unfold openBracket at h
    split at h
    · rename_i depth
      cases h
      exact ⟨depth, cs, [], opened, .inl ⟨rfl, isGap_nil⟩, rfl⟩
    · cases h
  split at h
  · subst c
    cases h
    exact ⟨cs, ['n'], opened, .null, rfl⟩
  split at h
  · subst c
    cases h
    exact ⟨cs, ['t'], opened, .true, rfl⟩
  split at h
  · subst c
    cases h
    exact ⟨cs, ['f'], opened, .false, rfl⟩
  split at h
  · rename_i n start
    cases h
    exact ⟨cs, [c], opened, OpenNumber.Holds.start start, rfl⟩
  · cases h

theorem holds_takeNumber {l : Literal} (opened : Opened places ds) (spelled : LiteralSpelling l es)
    (h : takeNumber places l = .ok s') : s'.Holds (ds ++ es) := by
  unfold takeNumber at h
  split at h
  · cases h
  · rename_i fits
    cases h
    exact holds_complete opened (.number spelled fits)

/-- A list is closed after its last item, or empty. -/
theorem holds_closeList {vs : List Value} (depth : places.length < 127) (opened : Opened places ds)
    (items : Spelling (127 - (places.length + 1)) (.items vs) es ∨ vs = [] ∧ IsGap es) :
    (complete places (.list vs)).Holds (ds ++ '[' :: es ++ [']']) := by
  rw [List.append_assoc]
  apply holds_complete opened
  rw [roomAt_eq depth]
  rcases items with spelled | ⟨rfl, blank⟩
  · exact .list spelled
  · exact .emptyList blank

theorem holds_closeObject {ms : Members} (depth : places.length < 127)
    (opened : Opened places ds)
    (members : Spelling (127 - (places.length + 1)) (.members ms) es ∨ ms = [] ∧ IsGap es) :
    (complete places (.object ms)).Holds (ds ++ '\x7b' :: es ++ ['\x7d']) := by
  rw [List.append_assoc]
  apply holds_complete opened
  rw [roomAt_eq depth]
  rcases members with spelled | ⟨rfl, blank⟩
  · exact .object spelled
  · exact .emptyObject blank

theorem holds_value (h : State.Holds ⟨places, .value⟩ cs)
    (taken : next ⟨places, .value⟩ c = .ok s') : s'.Holds (cs ++ [c]) := by
  simp only [next] at taken
  split at taken
  · rename_i hc
    cases taken
    exact Opened.space h hc
  · exact holds_begin h taken

theorem holds_firstItem (h : State.Holds ⟨places, .firstItem⟩ cs)
    (taken : next ⟨places, .firstItem⟩ c = .ok s') : s'.Holds (cs ++ [c]) := by
  simp only [next] at taken
  split at taken
  · rename_i hc
    cases taken
    exact Opened.space h hc
  split at taken
  · subst c
    cases taken
    obtain ⟨depth, ds, es, opened, lead, rfl⟩ := h
    exact holds_closeList depth opened (.inr ⟨rfl, lead.isGap⟩)
  · exact holds_begin h taken

theorem holds_nextItem {before : List Value} (h : State.Holds ⟨places, .nextItem before⟩ cs)
    (taken : next ⟨places, .nextItem before⟩ c = .ok s') : s'.Holds (cs ++ [c]) := by
  simp only [next] at taken
  split at taken
  · rename_i hc
    cases taken
    exact Opened.space h hc
  split at taken
  · cases taken
  · exact holds_begin h taken

theorem holds_firstKey (h : State.Holds ⟨places, .firstKey⟩ cs)
    (taken : next ⟨places, .firstKey⟩ c = .ok s') : s'.Holds (cs ++ [c]) := by
  simp only [next] at taken
  split at taken
  · rename_i hc
    cases taken
    exact OpenedObject.space h hc
  split at taken
  · subst c
    cases taken
    obtain ⟨depth, ds, es, opened, lead, rfl⟩ := h
    exact holds_closeObject depth opened (.inr ⟨rfl, lead.isGap⟩)
  split at taken
  · subst c
    cases taken
    exact ⟨cs, [], h, OpenText.holds_empty, rfl⟩
  · cases taken

theorem holds_nextKey {before : Members} (h : State.Holds ⟨places, .nextKey before⟩ cs)
    (taken : next ⟨places, .nextKey before⟩ c = .ok s') : s'.Holds (cs ++ [c]) := by
  simp only [next] at taken
  split at taken
  · rename_i hc
    cases taken
    exact OpenedObject.space h hc
  split at taken
  · cases taken
  split at taken
  · subst c
    cases taken
    exact ⟨cs, [], h, OpenText.holds_empty, rfl⟩
  · cases taken

theorem holds_key {before : Members} {t : OpenText} (h : State.Holds ⟨places, .key before t⟩ cs)
    (taken : next ⟨places, .key before t⟩ c = .ok s') : s'.Holds (cs ++ [c]) := by
  simp only [next] at taken
  obtain ⟨ds, es, opened, read, rfl⟩ := h
  split at taken
  · rename_i more
    cases taken
    exact ⟨ds, es ++ [c], opened, read.next_more more, by simp⟩
  · rename_i done
    cases taken
    obtain ⟨spelled, rfl⟩ := read.next_done done
    exact ⟨ds, es, [], opened, spelled, isGap_nil, by simp⟩
  · cases taken

theorem holds_colon {before : Members} {key : String}
    (h : State.Holds ⟨places, .colon before key⟩ cs)
    (taken : next ⟨places, .colon before key⟩ c = .ok s') : s'.Holds (cs ++ [c]) := by
  simp only [next] at taken
  obtain ⟨ds, es, gap, opened, spelled, blank, rfl⟩ := h
  split at taken
  · rename_i hc
    cases taken
    exact ⟨ds, es, gap ++ [c], opened, spelled, blank.snoc hc, by simp⟩
  split at taken
  · subst c
    cases taken
    obtain ⟨depth, ds, lead, opened, led, rfl⟩ := opened
    exact ⟨depth, ds, lead, _, opened, led, .intro spelled blank isGap_nil, by simp⟩
  · cases taken

theorem holds_text {t : OpenText} (h : State.Holds ⟨places, .text t⟩ cs)
    (taken : next ⟨places, .text t⟩ c = .ok s') : s'.Holds (cs ++ [c]) := by
  simp only [next] at taken
  obtain ⟨ds, es, opened, read, rfl⟩ := h
  split at taken
  · rename_i more
    cases taken
    exact ⟨ds, es ++ [c], opened, read.next_more more, by simp⟩
  · rename_i done
    cases taken
    obtain ⟨spelled, rfl⟩ := read.next_done done
    rw [List.append_assoc]
    exact holds_complete opened (.text spelled)
  · cases taken

theorem holds_keyword {expected : Char} {rest : List Char} {v : Value}
    (h : State.Holds ⟨places, .keyword expected rest v⟩ cs)
    (taken : next ⟨places, .keyword expected rest v⟩ c = .ok s') : s'.Holds (cs ++ [c]) := by
  simp only [next] at taken
  obtain ⟨ds, es, opened, spelled, rfl⟩ := h
  split at taken
  · subst c
    rw [List.append_assoc]
    split at taken
    · cases taken
      exact holds_complete opened spelled
    · cases taken
      exact ⟨ds, es ++ [expected], opened, by simpa using spelled, rfl⟩
  · cases taken

theorem holds_afterItem {items : List Value} (h : State.Holds ⟨places, .afterItem items⟩ cs)
    (taken : next ⟨places, .afterItem items⟩ c = .ok s') : s'.Holds (cs ++ [c]) := by
  simp only [next] at taken
  obtain ⟨depth, ds, es, opened, spelled, rfl⟩ := h
  split at taken
  · rename_i hc
    cases taken
    exact ⟨depth, ds, es ++ [c], opened, spelling_items_space spelled hc, by simp⟩
  split at taken
  · subst c
    cases taken
    exact ⟨depth, ds, es ++ [','], opened, .inr ⟨es, [], spelled, isGap_nil, rfl⟩, by simp⟩
  split at taken
  · subst c
    cases taken
    exact holds_closeList depth opened (.inl spelled)
  · cases taken

theorem holds_afterMember {members : Members} (h : State.Holds ⟨places, .afterMember members⟩ cs)
    (taken : next ⟨places, .afterMember members⟩ c = .ok s') : s'.Holds (cs ++ [c]) := by
  simp only [next] at taken
  obtain ⟨depth, ds, es, opened, spelled, rfl⟩ := h
  split at taken
  · rename_i hc
    cases taken
    exact ⟨depth, ds, es ++ [c], opened, spelling_members_gap spelled (isGap_nil.snoc hc), by simp⟩
  split at taken
  · subst c
    cases taken
    exact ⟨depth, ds, es ++ [','], opened, .inr ⟨es, [], spelled, isGap_nil, rfl⟩, by simp⟩
  split at taken
  · subst c
    cases taken
    exact holds_closeObject depth opened (.inl spelled)
  · cases taken

theorem holds_finished {v : Value} (h : State.Holds ⟨places, .finished v⟩ cs)
    (taken : next ⟨places, .finished v⟩ c = .ok s') : s'.Holds (cs ++ [c]) := by
  simp only [next] at taken
  obtain ⟨before, body, after, blank, spelled, blank', rfl⟩ := h
  split at taken
  · rename_i hc
    cases taken
    exact ⟨before, body, after ++ [c], blank, spelled, blank'.snoc hc, by simp⟩
  · cases taken

/-- Every character that is read leaves a state that holds of one character more. -/
theorem holds_next (h : s.Holds cs) (taken : next s c = .ok s') : s'.Holds (cs ++ [c]) := by
  obtain ⟨places, mode⟩ := s
  cases mode with
  | value => exact holds_value h taken
  | firstItem => exact holds_firstItem h taken
  | nextItem _ => exact holds_nextItem h taken
  | firstKey => exact holds_firstKey h taken
  | nextKey _ => exact holds_nextKey h taken
  | key _ _ => exact holds_key h taken
  | colon _ _ => exact holds_colon h taken
  | text _ => exact holds_text h taken
  | keyword _ _ _ => exact holds_keyword h taken
  | number => cases taken
  | afterItem _ => exact holds_afterItem h taken
  | afterMember _ => exact holds_afterMember h taken
  | finished _ => exact holds_finished h taken

/-- A number that ends before a character ends in a state that this character continues. -/
theorem holds_step (h : s.Holds cs) (taken : step s c = .ok s') : s'.Holds (cs ++ [c]) := by
  obtain ⟨places, mode⟩ := s
  cases mode
  case number n =>
    obtain ⟨ds, es, opened, read, rfl⟩ := h
    simp only [step] at taken
    split at taken
    · rename_i more
      cases taken
      exact ⟨ds, es ++ [c], opened, read.next_more more, by simp⟩
    · rename_i l done
      cases ended : takeNumber places l with
      | error fault =>
        rw [ended] at taken
        cases taken
      | ok t =>
        rw [ended] at taken
        exact holds_next (holds_takeNumber opened (read.next_done done) ended) taken
    · cases taken
  all_goals exact holds_next h taken

theorem holds_initial : initial.Holds [] := isGap_nil

/-- The invariant is carried from the left, so what has been read grows with each step. -/
theorem holds_run (h : s.Holds cs) (taken : run s ds = .ok s') : s'.Holds (cs ++ ds) := by
  induction ds generalizing s cs with
  | nil =>
    cases taken
    simpa using h
  | cons c ds ih =>
    cases first : step s c with
    | error fault =>
      simp only [run, List.foldlM_cons, first] at taken
      cases taken
    | ok t =>
      rw [run_cons_of_step first] at taken
      simpa using ih (holds_step h first) taken

theorem isTextOf_of_outcome (h : s.Holds cs) (ends : outcome s = .ok v) : IsTextOf v cs := by
  obtain ⟨places, mode⟩ := s
  cases mode <;> cases ends
  exact h

theorem isTextOf_of_finish (h : s.Holds cs) (ends : finish s = .ok v) : IsTextOf v cs := by
  obtain ⟨places, mode⟩ := s
  cases mode
  case number n =>
    obtain ⟨ds, es, opened, read, rfl⟩ := h
    simp only [finish] at ends
    split at ends
    · rename_i l literal
      cases ended : takeNumber places l with
      | error fault =>
        rw [ended] at ends
        cases ends
      | ok t =>
        rw [ended] at ends
        exact isTextOf_of_outcome (holds_takeNumber opened (read.literal literal) ended) ends
    · cases ends
  all_goals exact isTextOf_of_outcome h ends

end State

/-- The reader finds a value exactly where the grammar has one. -/
theorem read_eq_ok_iff {cs : List Char} {v : Value} : read cs = .ok v ↔ IsTextOf v cs := by
  refine ⟨fun h => ?_, read_of_isTextOf⟩
  cases ran : State.initial.run cs with
  | error fault => cases (State.read_of_run_error ran).symm.trans h
  | ok s =>
    rw [State.read_of_run ran] at h
    exact State.isTextOf_of_finish (State.holds_run State.holds_initial ran) h

theorem IsTextOf.unique {cs : List Char} {v v' : Value} (h : IsTextOf v cs) (h' : IsTextOf v' cs) :
    v = v' := by
  have same : Except.ok v = (.ok v' : Except Fault Value) :=
    (read_of_isTextOf h).symm.trans (read_of_isTextOf h')
  cases same
  rfl

end UploadMessages.Json
