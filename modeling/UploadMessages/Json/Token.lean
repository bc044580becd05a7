import UploadMessages.Json.Value
import UploadMessages.Text.Bytes

/-! # Numbers and texts being read

A fault is what the first character that cannot belong to a JSON text finds there, or
the end of a text that is a JSON text only in part.

A number has no end of its own: it is complete when a character follows that cannot
continue it, or when the text ends. The digits read so far are kept with the latest
first.

A text ends at its closing quote. An escape `\uXXXX` names a unit of UTF-16; the two
units of a surrogate pair are named by two escapes in a row and are one character
together. The four places of a unit are bytes.
-/

namespace UploadMessages.Json

inductive Fault
  | endInValue
  | endInList
  | endInObject
  | endInText
  | notAValue
  | notAKeyword
  | notAKey
  | noColon
  | noCommaInList
  | noCommaInObject
  | trailingComma
  | trailingCharacters
  | controlCharacter
  | notAnEscape
  | loneSurrogate
  | brokenPair
  | notANumber
  | numberOverflow
  | tooDeep
deriving DecidableEq, Repr

def Fault.message : Fault → String
  | .endInValue => "EOF while parsing a value"
  | .endInList => "EOF while parsing a list"
  | .endInObject => "EOF while parsing an object"
  | .endInText => "EOF while parsing a string"
  | .notAValue => "expected value"
  | .notAKeyword => "expected ident"
  | .notAKey => "key must be a string"
  | .noColon => "expected `:`"
  | .noCommaInList => "expected `,` or `]`"
  | .noCommaInObject => "expected `,` or `\x7d`"
  | .trailingComma => "trailing comma"
  | .trailingCharacters => "trailing characters"
  | .controlCharacter => "control character (\\u0000-\\u001F) found while parsing a string"
  | .notAnEscape => "invalid escape"
  | .loneSurrogate => "lone leading surrogate in hex escape"
  | .brokenPair => "unexpected end of hex escape"
  | .notANumber => "invalid number"
  | .numberOverflow => "number out of range"
  | .tooDeep => "recursion limit exceeded"

/-- What one more character makes of something that is being read. -/
inductive Progress (σ α : Type)
  | more (state : σ)
  | done (result : α)

/-- How much of a literal has been read. -/
inductive OpenNumber
  | sign
  | whole (negative : Bool) (digits : Numeral 10)
  | point (negative : Bool) (before : Numeral 10)
  | fraction (negative : Bool) (before digits : Numeral 10)
  | mark (mantissa : Literal)
  | markSign (mantissa : Literal) (negative : Bool)
  | exponent (mantissa : Literal) (negative : Bool) (digits : Numeral 10)
deriving DecidableEq, Repr

namespace OpenNumber

def start? (c : Char) : Option OpenNumber :=
  if c = '-' then some .sign
  else match Digit.ofChar? 10 c with
    | some d => some (.whole false [d])
    | none => none

def literal? : OpenNumber → Option Literal
  | .whole negative digits => some ⟨negative, digits.reverse, [], none⟩
  | .fraction negative before digits => some ⟨negative, before.reverse, digits.reverse, none⟩
  | .exponent mantissa negative digits =>
    some { mantissa with exponent := some ⟨negative, digits.reverse⟩ }
  | _ => none

def IsMark (c : Char) : Prop := c = 'e' ∨ c = 'E'

instance (c : Char) : Decidable (IsMark c) := inferInstanceAs (Decidable (_ ∨ _))

def isZero : Numeral 10 → Bool
  | [d] => d.val == 0
  | _ => false

/-- The number with one more digit. A whole part that begins with zero has no other digit. -/
def digit (d : Digit 10) : OpenNumber → Option OpenNumber
  | .sign => some (.whole true [d])
  | .whole negative digits => if isZero digits then none else some (.whole negative (d :: digits))
  | .point negative before => some (.fraction negative before [d])
  | .fraction negative before digits => some (.fraction negative before (d :: digits))
  | .mark mantissa => some (.exponent mantissa false [d])
  | .markSign mantissa negative => some (.exponent mantissa negative [d])
  | .exponent mantissa negative digits => some (.exponent mantissa negative (d :: digits))

/-- The number with one more character that is no digit, if it continues one. -/
def sign? (c : Char) : OpenNumber → Option OpenNumber
  | .whole negative digits =>
    if c = '.' then some (.point negative digits)
    else if IsMark c then some (.mark ⟨negative, digits.reverse, [], none⟩)
    else none
  | .fraction negative before digits =>
    if IsMark c then some (.mark ⟨negative, before.reverse, digits.reverse, none⟩) else none
  | .mark mantissa =>
    if c = '+' then some (.markSign mantissa false)
    else if c = '-' then some (.markSign mantissa true)
    else none
  | _ => none

/-- Read one character, or end before it. -/
def next (n : OpenNumber) (c : Char) : Except Fault (Progress OpenNumber Literal) :=
  match Digit.ofChar? 10 c with
  | some d => match n.digit d with
    | some n' => .ok (.more n')
    | none => .error .notANumber
  | none => match n.sign? c with
    | some n' => .ok (.more n')
    | none => match n.literal? with
      | some l => .ok (.done l)
      | none => .error .notANumber

end OpenNumber

/-- Where in an escape the reader is, if it is in one. -/
inductive Escape
  | none
  | backslash
  | unit (high : Option Nat) (places : List Char)
  | pair (high : Nat)
  | pairBackslash (high : Nat)
deriving DecidableEq, Repr

/-- The characters read so far, the latest first. -/
structure OpenText where
  read : List Char
  escape : Escape
deriving DecidableEq, Repr

namespace OpenText

def empty : OpenText := ⟨[], .none⟩

/-- The character that a backslash and a letter stand for. -/
def escaped? (c : Char) : Option Char :=
  if c = '"' then some '"'
  else if c = '\\' then some '\\'
  else if c = '/' then some '/'
  else if c = 'b' then some '\x08'
  else if c = 'f' then some '\x0c'
  else if c = 'n' then some '\n'
  else if c = 'r' then some '\r'
  else if c = 't' then some '\t'
  else none

def IsHigh (unit : Nat) : Prop := 0xd800 ≤ unit ∧ unit ≤ 0xdbff

def IsLow (unit : Nat) : Prop := 0xdc00 ≤ unit ∧ unit ≤ 0xdfff

instance (unit : Nat) : Decidable (IsHigh unit) := inferInstanceAs (Decidable (_ ∧ _))

instance (unit : Nat) : Decidable (IsLow unit) := inferInstanceAs (Decidable (_ ∧ _))

def joined (high low : Nat) : Char :=
  Char.ofNat (0x10000 + (high - 0xd800) * 0x400 + (low - 0xdc00))

/-- Take a unit, after the high unit of its pair if there is one. -/
def takeUnit (read : List Char) (high : Option Nat) (unit : Nat) : Except Fault OpenText :=
  match high with
  | some h => if IsLow unit then .ok ⟨joined h unit :: read, .none⟩ else .error .loneSurrogate
  | none =>
    if IsLow unit then .error .loneSurrogate
    else if IsHigh unit then .ok ⟨read, .pair unit⟩
    else .ok ⟨Char.ofNat unit :: read, .none⟩

/-- Read one character; the closing quote ends the text. -/
def next (t : OpenText) (c : Char) : Except Fault (Progress OpenText String) :=
  match t.escape with
  | .none =>
    if c = '"' then .ok (.done (String.ofList t.read.reverse))
    else if c = '\\' then .ok (.more ⟨t.read, .backslash⟩)
    else if c.toNat < 0x20 then .error .controlCharacter
    else .ok (.more ⟨c :: t.read, .none⟩)
  | .backslash =>
    if c = 'u' then .ok (.more ⟨t.read, .unit none []⟩)
    else match escaped? c with
      | some c' => .ok (.more ⟨c' :: t.read, .none⟩)
      | none => .error .notAnEscape
  | .unit high places =>
    let places := places ++ [c]
    if Text.byteSize places < 4 then .ok (.more ⟨t.read, .unit high places⟩)
    else match Numeral.ofChars? 16 places with
      | some digits => match takeUnit t.read high digits.value with
        | .ok t' => .ok (.more t')
        | .error fault => .error fault
      | none => .error .notAnEscape
  | .pair high =>
    if c = '\\' then .ok (.more ⟨t.read, .pairBackslash high⟩) else .error .brokenPair
  | .pairBackslash high =>
    if c = 'u' then .ok (.more ⟨t.read, .unit (some high) []⟩) else .error .brokenPair

end OpenText

end UploadMessages.Json
