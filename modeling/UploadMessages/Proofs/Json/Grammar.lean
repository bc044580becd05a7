import UploadMessages.Json.Reader

/-! # The grammar of JSON texts

The grammar of RFC 8259 as relations between what is written and its spellings,
apart from the reader. Two limits belong to it: brackets nest no deeper than
there is room for, and no number is too large for a double.
-/

namespace UploadMessages.Json

open OpenText (IsHigh IsLow joined)

/-- Spaces, tabs and line ends, in any number, as they may stand between tokens. -/
def IsGap (cs : List Char) : Prop := ∀ c ∈ cs, State.IsSpace c

theorem isGap_nil : IsGap [] := by simp [IsGap]

theorem IsGap.snoc {cs : List Char} {c : Char} (h : IsGap cs) (hc : State.IsSpace c) :
    IsGap (cs ++ [c]) := by
  intro d hd
  rcases List.mem_append.mp hd with hd | hd
  · exact h d hd
  · rwa [List.mem_singleton.mp hd]

theorem IsGap.append {cs ds : List Char} (h : IsGap cs) (h' : IsGap ds) : IsGap (cs ++ ds) :=
  fun c hc => (List.mem_append.mp hc).elim (h c) (h' c)

inductive LetterEscape : Char → Char → Prop
  | quote : LetterEscape '"' '"'
  | backslash : LetterEscape '\\' '\\'
  | slash : LetterEscape '/' '/'
  | backspace : LetterEscape 'b' '\x08'
  | formFeed : LetterEscape 'f' '\x0c'
  | lineFeed : LetterEscape 'n' '\n'
  | carriageReturn : LetterEscape 'r' '\r'
  | tab : LetterEscape 't' '\t'

/-- Four hexadecimal digits name a unit of UTF-16. -/
def UnitSpelling (unit : Nat) (cs : List Char) : Prop :=
  cs.length = 4 ∧ ∃ digits, Numeral.ofChars? 16 cs = some digits ∧ digits.value = unit

/-- The spellings of one character. A surrogate is spelled only as half of a pair. -/
inductive CharSpelling : Char → List Char → Prop
  | raw {c : Char} (visible : 0x20 ≤ c.toNat) (notQuote : c ≠ '"') (notBackslash : c ≠ '\\') :
    CharSpelling c [c]
  | letter {l c : Char} (escape : LetterEscape l c) : CharSpelling c ['\\', l]
  | unit {unit : Nat} {cs : List Char} (digits : UnitSpelling unit cs) (notHigh : ¬IsHigh unit)
    (notLow : ¬IsLow unit) : CharSpelling (Char.ofNat unit) ('\\' :: 'u' :: cs)
  | pair {high low : Nat} {cs ds : List Char} (highDigits : UnitSpelling high cs)
    (lowDigits : UnitSpelling low ds) (isHigh : IsHigh high) (isLow : IsLow low) :
    CharSpelling (joined high low) ('\\' :: 'u' :: cs ++ '\\' :: 'u' :: ds)

inductive TextSpelling : List Char → List Char → Prop
  | nil : TextSpelling [] []
  | snoc {s cs ds : List Char} {c : Char} (before : TextSpelling s cs) (last : CharSpelling c ds) :
    TextSpelling (s ++ [c]) (cs ++ ds)

inductive KeySpelling (key : String) : List Char → Prop
  | intro {cs gap gap' : List Char} (text : TextSpelling key.toList cs) (before : IsGap gap)
    (after : IsGap gap') : KeySpelling key ('"' :: cs ++ '"' :: gap ++ ':' :: gap')

/-- Digits of a whole part: at least one, and none after a leading zero. -/
def IsWhole (digits : Numeral 10) : Prop :=
  digits ≠ [] ∧ (digits.head? = some 0 → digits.length = 1)

def signSpelling (negative : Bool) : List Char := if negative then ['-'] else []

inductive FractionSpelling : Numeral 10 → List Char → Prop
  | absent : FractionSpelling [] []
  | present {digits : Numeral 10} (nonempty : digits ≠ []) :
    FractionSpelling digits ('.' :: digits.toChars)

inductive MarkSpelling : Bool → List Char → Prop
  | bare {e : Char} (mark : OpenNumber.IsMark e) : MarkSpelling false [e]
  | plus {e : Char} (mark : OpenNumber.IsMark e) : MarkSpelling false [e, '+']
  | minus {e : Char} (mark : OpenNumber.IsMark e) : MarkSpelling true [e, '-']

inductive ExponentSpelling : Option Exponent → List Char → Prop
  | absent : ExponentSpelling none []
  | present {negative : Bool} {cs : List Char} {digits : Numeral 10}
    (mark : MarkSpelling negative cs) (nonempty : digits ≠ []) :
    ExponentSpelling (some ⟨negative, digits⟩) (cs ++ digits.toChars)

inductive LiteralSpelling (l : Literal) : List Char → Prop
  | intro {cs ds : List Char} (whole : IsWhole l.whole) (fraction : FractionSpelling l.fraction cs)
    (exponent : ExponentSpelling l.exponent ds) :
    LiteralSpelling l (signSpelling l.negative ++ l.whole.toChars ++ cs ++ ds)

/-- What the grammar spells: a value, or what stands between brackets that are not empty. -/
inductive Phrase
  | value (v : Value)
  | items (vs : List Value)
  | members (ms : Members)

/-- The spellings of a phrase whose brackets nest no deeper than the room. -/
inductive Spelling : Nat → Phrase → List Char → Prop
  | null {room : Nat} : Spelling room (.value .null) ['n', 'u', 'l', 'l']
  | true {room : Nat} : Spelling room (.value (.boolean true)) ['t', 'r', 'u', 'e']
  | false {room : Nat} : Spelling room (.value (.boolean false)) ['f', 'a', 'l', 's', 'e']
  | number {room : Nat} {l : Literal} {cs : List Char} (literal : LiteralSpelling l cs)
    (fits : ¬l.Overflows) : Spelling room (.value (.number l)) cs
  | text {room : Nat} {s : String} {cs : List Char} (text : TextSpelling s.toList cs) :
    Spelling room (.value (.text s)) ('"' :: cs ++ ['"'])
  | emptyList {room : Nat} {gap : List Char} (blank : IsGap gap) :
    Spelling (room + 1) (.value (.list [])) ('[' :: gap ++ [']'])
  | list {room : Nat} {vs : List Value} {cs : List Char} (items : Spelling room (.items vs) cs) :
    Spelling (room + 1) (.value (.list vs)) ('[' :: cs ++ [']'])
  | emptyObject {room : Nat} {gap : List Char} (blank : IsGap gap) :
    Spelling (room + 1) (.value (.object [])) ('\x7b' :: gap ++ ['\x7d'])
  | object {room : Nat} {ms : Members} {cs : List Char}
    (members : Spelling room (.members ms) cs) :
    Spelling (room + 1) (.value (.object ms)) ('\x7b' :: cs ++ ['\x7d'])
  | firstItem {room : Nat} {v : Value} {gap cs gap' : List Char} (before : IsGap gap)
    (value : Spelling room (.value v) cs) (after : IsGap gap') :
    Spelling room (.items [v]) (gap ++ cs ++ gap')
  | nextItem {room : Nat} {vs : List Value} {v : Value} {ds gap cs gap' : List Char}
    (earlier : Spelling room (.items vs) ds) (before : IsGap gap)
    (value : Spelling room (.value v) cs) (after : IsGap gap') :
    Spelling room (.items (vs ++ [v])) (ds ++ ',' :: gap ++ cs ++ gap')
  | firstMember {room : Nat} {key : String} {v : Value} {gap ks cs gap' : List Char}
    (before : IsGap gap) (named : KeySpelling key ks) (value : Spelling room (.value v) cs)
    (after : IsGap gap') : Spelling room (.members [(key, v)]) (gap ++ ks ++ cs ++ gap')
  | nextMember {room : Nat} {ms : Members} {key : String} {v : Value}
    {ds gap ks cs gap' : List Char} (earlier : Spelling room (.members ms) ds)
    (before : IsGap gap) (named : KeySpelling key ks) (value : Spelling room (.value v) cs)
    (after : IsGap gap') :
    Spelling room (.members (ms ++ [(key, v)])) (ds ++ ',' :: gap ++ ks ++ cs ++ gap')

theorem spelling_members_gap {room : Nat} {ms : Members} {cs gap : List Char}
    (h : Spelling room (.members ms) cs) (blank : IsGap gap) :
    Spelling room (.members ms) (cs ++ gap) := by
  cases h with
  | firstMember before named value after =>
    simpa using Spelling.firstMember before named value (after.append blank)
  | nextMember earlier before named value after =>
    simpa using Spelling.nextMember earlier before named value (after.append blank)

theorem spelling_members_append {room : Nat} {ms later : Members} {cs ds : List Char}
    (h : Spelling room (.members ms) cs) (h' : Spelling room (.members later) ds) :
    Spelling room (.members (ms ++ later)) (cs ++ ',' :: ds) := by
  generalize hp : Phrase.members later = phrase at h'
  induction h' generalizing later with
  | firstMember before named value after =>
    cases hp
    simpa using Spelling.nextMember h before named value after
  | nextMember earlier before named value after ih _ =>
    cases hp
    simpa using Spelling.nextMember (ih h rfl) before named value after
  | _ => cases hp

/-- Each member that is spelled has a value that is spelled. -/
theorem exists_spelling_of_mem {room : Nat} {ms : Members} {cs : List Char}
    (h : Spelling room (.members ms) cs) {member : String × Value} (mem : member ∈ ms) :
    ∃ ds, Spelling room (.value member.2) ds := by
  generalize hp : Phrase.members ms = phrase at h
  induction h generalizing ms with
  | firstMember _ _ value _ _ =>
    cases hp
    rw [List.mem_singleton.mp mem]
    exact ⟨_, value⟩
  | nextMember _ _ _ value _ ih _ =>
    cases hp
    rcases List.mem_append.mp mem with earlier | last
    · exact ih earlier rfl
    · rw [List.mem_singleton.mp last]
      exact ⟨_, value⟩
  | _ => cases hp

/-- A JSON text is the spelling of one value, with gaps around it. -/
def IsTextOf (v : Value) (cs : List Char) : Prop :=
  ∃ before body after, IsGap before ∧ Spelling 127 (.value v) body ∧ IsGap after ∧
    cs = before ++ body ++ after

end UploadMessages.Json
