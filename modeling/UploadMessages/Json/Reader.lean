import UploadMessages.Json.Token
import UploadMessages.Json.Value

/-! # Reading JSON texts

A text is read character by character. The state between two characters holds
the places of the open brackets in which a value is awaited, the outermost last,
and what may come next. The first fault ends the reading for good, so nothing
that follows it can change it; a text that has no fault may still end too early.
-/

namespace UploadMessages.Json

/-- A place in an open bracket for a value that is awaited or being read, with what the bracket
holds before it, the latest first. -/
inductive Place
  | item (before : List Value)
  | member (before : Members) (key : String)

/-- What is being read, or may come next. -/
inductive Mode
  | value
  | firstItem
  | nextItem (before : List Value)
  | firstKey
  | nextKey (before : Members)
  | key (before : Members) (t : OpenText)
  | colon (before : Members) (key : String)
  | text (t : OpenText)
  | keyword (next : Char) (rest : List Char) (v : Value)
  | number (n : OpenNumber)
  | afterItem (items : List Value)
  | afterMember (members : Members)
  | finished (v : Value)

structure State where
  places : List Place
  mode : Mode

namespace State

def initial : State := ⟨[], .value⟩

def maxDepth : Nat := 127

/-- Spaces, tabs and line ends may stand between tokens. -/
def IsSpace (c : Char) : Prop := c = ' ' ∨ c = '\n' ∨ c = '\t' ∨ c = '\r'

instance (c : Char) : Decidable (IsSpace c) := inferInstanceAs (Decidable (_ ∨ _))

/-- The state after a value that stands at the innermost place. -/
def complete (places : List Place) (v : Value) : State :=
  match places with
  | [] => ⟨[], .finished v⟩
  | .item before :: outer => ⟨outer, .afterItem (v :: before)⟩
  | .member before key :: outer => ⟨outer, .afterMember ((key, v) :: before)⟩

def openBracket (places : List Place) (mode : Mode) : Except Fault State :=
  if places.length < maxDepth then .ok ⟨places, mode⟩ else .error .tooDeep

def begin (places : List Place) (c : Char) : Except Fault State :=
  if c = '"' then .ok ⟨places, .text .empty⟩
  else if c = '[' then openBracket places .firstItem
  else if c = '\x7b' then openBracket places .firstKey
  else if c = 'n' then .ok ⟨places, .keyword 'u' ['l', 'l'] .null⟩
  else if c = 't' then .ok ⟨places, .keyword 'r' ['u', 'e'] (.boolean true)⟩
  else if c = 'f' then .ok ⟨places, .keyword 'a' ['l', 's', 'e'] (.boolean false)⟩
  else match OpenNumber.start? c with
    | some n => .ok ⟨places, .number n⟩
    | none => .error .notAValue

/-- Take a literal that ends here. -/
def takeNumber (places : List Place) (l : Literal) : Except Fault State :=
  if l.Overflows then .error .numberOverflow else .ok (complete places (.number l))

/-- Read one character in a state in which no literal is open. -/
def next (s : State) (c : Char) : Except Fault State :=
  match s.mode with
  | .value => if IsSpace c then .ok s else begin s.places c
  | .firstItem =>
    if IsSpace c then .ok s
    else if c = ']' then .ok (complete s.places (.list []))
    else begin (.item [] :: s.places) c
  | .nextItem before =>
    if IsSpace c then .ok s
    else if c = ']' then .error .trailingComma
    else begin (.item before :: s.places) c
  | .firstKey =>
    if IsSpace c then .ok s
    else if c = '\x7d' then .ok (complete s.places (.object []))
    else if c = '"' then .ok ⟨s.places, .key [] .empty⟩
    else .error .notAKey
  | .nextKey before =>
    if IsSpace c then .ok s
    else if c = '\x7d' then .error .trailingComma
    else if c = '"' then .ok ⟨s.places, .key before .empty⟩
    else .error .notAKey
  | .key before t => match t.next c with
    | .ok (.more t') => .ok ⟨s.places, .key before t'⟩
    | .ok (.done key) => .ok ⟨s.places, .colon before key⟩
    | .error fault => .error fault
  | .colon before key =>
    if IsSpace c then .ok s
    else if c = ':' then .ok ⟨.member before key :: s.places, .value⟩
    else .error .noColon
  | .text t => match t.next c with
    | .ok (.more t') => .ok ⟨s.places, .text t'⟩
    | .ok (.done text) => .ok (complete s.places (.text text))
    | .error fault => .error fault
  | .keyword expected rest v =>
    if c = expected then match rest with
      | [] => .ok (complete s.places v)
      | expected' :: rest' => .ok ⟨s.places, .keyword expected' rest' v⟩
    else .error .notAKeyword
  | .number _ => .error .notANumber
  | .afterItem items =>
    if IsSpace c then .ok s
    else if c = ',' then .ok ⟨s.places, .nextItem items⟩
    else if c = ']' then .ok (complete s.places (.list items.reverse))
    else .error .noCommaInList
  | .afterMember members =>
    if IsSpace c then .ok s
    else if c = ',' then .ok ⟨s.places, .nextKey members⟩
    else if c = '\x7d' then .ok (complete s.places (.object members.reverse))
    else .error .noCommaInObject
  | .finished _ => if IsSpace c then .ok s else .error .trailingCharacters

/-- Read one character. One that ends a literal is then read in the state after it. -/
def step (s : State) (c : Char) : Except Fault State :=
  match s.mode with
  | .number n => match n.next c with
    | .ok (.more n') => .ok ⟨s.places, .number n'⟩
    | .ok (.done l) => do next (← takeNumber s.places l) c
    | .error fault => .error fault
  | _ => next s c

def run (s : State) (cs : List Char) : Except Fault State := cs.foldlM step s

/-- The value of a text that ends in a state in which no literal is open. -/
def outcome (s : State) : Except Fault Value :=
  match s.mode with
  | .value | .nextItem _ | .nextKey _ | .keyword .. | .number _ => .error .endInValue
  | .firstItem | .afterItem _ => .error .endInList
  | .firstKey | .colon .. | .afterMember _ => .error .endInObject
  | .key .. | .text _ => .error .endInText
  | .finished v => .ok v

def finish (s : State) : Except Fault Value :=
  match s.mode with
  | .number n => match n.literal? with
    | some l => do outcome (← takeNumber s.places l)
    | none => .error .endInValue
  | _ => outcome s

theorem run_append (s : State) (cs ds : List Char) :
    run s (cs ++ ds) = run s cs >>= fun s' => run s' ds := by
  simp [run, List.foldlM_append]

end State

def read (text : List Char) : Except Fault Value := do
  (← State.initial.run text).finish

/-- A fault that a text has before its end, every longer text has. -/
theorem read_append_of_run {text : List Char} {fault : Fault}
    (h : State.initial.run text = .error fault) (more : List Char) :
    read (text ++ more) = .error fault := by
  simp only [read, State.run_append, h]
  rfl

end UploadMessages.Json
