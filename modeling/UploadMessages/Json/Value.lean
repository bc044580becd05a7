import UploadMessages.Decimal
import UploadMessages.Field

/-! # Values of JSON texts

A number is kept as its literal. A literal without fraction and exponent denotes an
integer if it fits 64 bits, signed when it is negative; `-0` denotes none. Every other
literal denotes a double. A double is found from the leading digits that fit 64 bits,
scaled by a power of ten; it exists unless the scaled number overflows.

The members of an object are kept in the order of the text, all of those with one key
included; a look-up finds the last.

A record is an object whose members are scalars. It is written in one line without
spaces, its members in the given order.
-/

namespace UploadMessages.Json

structure Exponent where
  negative : Bool
  digits : Numeral 10
deriving DecidableEq, Repr

namespace Exponent

/-- Exponents from here on scale all literals alike. -/
def far : Nat := Nat.pow 2 31

def value (e : Exponent) : Int :=
  let magnitude := e.digits.foldl (fun n d => min (n * 10 + d.val) far) 0
  if e.negative then -magnitude else magnitude

end Exponent

/-- Without fraction, `fraction` is empty. -/
structure Literal where
  negative : Bool
  whole : Numeral 10
  fraction : Numeral 10
  exponent : Option Exponent
deriving DecidableEq, Repr

namespace Literal

def IsPlain (l : Literal) : Prop := l.fraction = [] ∧ l.exponent = none

instance (l : Literal) : Decidable l.IsPlain := inferInstanceAs (Decidable (_ ∧ _))

/-- The integers from zero to below this bound fit 64 bits. -/
def bound : Nat := Nat.pow 2 64

/-- The negative integers down to this magnitude fit 64 bits. -/
def negativeBound : Nat := Nat.pow 2 63

def toInt? (l : Literal) : Option Int :=
  if l.IsPlain then
    let n := l.whole.value
    if l.negative then
      if 1 ≤ n ∧ n ≤ negativeBound then some (-n) else none
    else if n < bound then some n else none
  else none

def ofInt (n : Int) : Literal := ⟨decide (n < 0), Numeral.ofNat 10 n.natAbs, [], none⟩

/-- Append digits to a number while it stays in bounds; the digits from the first that does
not fit are left. -/
def absorb (n : Nat) : Numeral 10 → Nat × Numeral 10
  | [] => (n, [])
  | d :: ds =>
    let next := n * 10 + d.val
    if next < bound then absorb next ds else (n, d :: ds)

/-- The significand of a literal and the power of ten that scales it. A digit of the whole part
that is left counts in the power, one of the fraction does not. -/
def scaled (l : Literal) : Nat × Int :=
  let (whole, leftWhole) := absorb 0 l.whole
  let (significand, leftFraction) := absorb whole l.fraction
  let taken := l.fraction.length - leftFraction.length
  (significand, leftWhole.length - taken + (l.exponent.map Exponent.value).getD 0)

/-- No power of ten beyond this one is a double. -/
def maxPower : Nat := 308

def powerOfTen (k : Nat) : Nat := Binary64.ofNat (Nat.pow 10 k)

/-- A significand times or over a power of ten, in units of the least double. Both are doubles
first; a power below all doubles is divided by in two steps. -/
def scale (significand : Nat) (power : Int) : Nat :=
  let f := Binary64.ofNat significand
  let k := power.natAbs
  if 0 ≤ power then
    if k ≤ maxPower then Binary64.mul f (powerOfTen k)
    else if significand = 0 then 0
    else Binary64.limit
  else if k ≤ maxPower then Binary64.div f (powerOfTen k)
  else
    let scaledDown := Binary64.div f (powerOfTen maxPower)
    Binary64.div scaledDown (powerOfTen (min (k - maxPower) maxPower))

def magnitude (l : Literal) : Nat := scale l.scaled.1 l.scaled.2

/-- A literal that denotes neither an integer nor a double. -/
def Overflows (l : Literal) : Prop := l.toInt? = none ∧ Binary64.limit ≤ l.magnitude

instance (l : Literal) : Decidable l.Overflows := inferInstanceAs (Decidable (_ ∧ _))

end Literal

inductive Value
  | null
  | boolean (b : Bool)
  | number (l : Literal)
  | text (s : String)
  | list (items : List Value)
  | object (members : List (String × Value))
deriving Inhabited

abbrev Members := List (String × Value)

def Members.last? (members : Members) (key : String) : Option Value :=
  members.reverse.lookup key

theorem Members.last?_append_singleton (members : Members) (key key' : String) (v : Value) :
    Members.last? (members ++ [(key, v)]) key' =
      if key' = key then some v else members.last? key' := by
  simp only [last?, List.reverse_append, List.reverse_cons, List.reverse_nil, List.nil_append,
    List.singleton_append, List.lookup_cons]
  by_cases h : key' = key
  · simp [h]
  · simp [h, beq_false_of_ne h]

/-- The letter of a character that is written as a backslash and one letter. -/
def shortEscape? (c : Char) : Option Char :=
  if c = '"' then some '"'
  else if c = '\\' then some '\\'
  else if c = '\x08' then some 'b'
  else if c = '\x0c' then some 'f'
  else if c = '\n' then some 'n'
  else if c = '\r' then some 'r'
  else if c = '\t' then some 't'
  else none

def writtenChar (c : Char) : List Char :=
  match shortEscape? c with
  | some letter => ['\\', letter]
  | none =>
    if c.toNat < 0x20 then '\\' :: 'u' :: (Numeral.padded 16 4 c.toNat).toChars else [c]

def writtenText (s : String) : List Char := '"' :: s.toList.flatMap writtenChar ++ ['"']

def writtenScalar : Scalar → List Char
  | .text s => writtenText s
  | .flag true => ['t', 'r', 'u', 'e']
  | .flag false => ['f', 'a', 'l', 's', 'e']
  | .integer n => Numeral.ofInt n

def Value.ofScalar : Scalar → Value
  | .text s => .text s
  | .flag b => .boolean b
  | .integer n => .number (.ofInt n)

abbrev Record := List (String × Scalar)

def Record.writtenMember (member : String × Scalar) : List Char :=
  writtenText member.1 ++ ':' :: writtenScalar member.2

def Record.writtenMembers : Record → List Char
  | [] => []
  | [member] => writtenMember member
  | member :: later => writtenMember member ++ ',' :: writtenMembers later

def Record.written (r : Record) : List Char := '\x7b' :: r.writtenMembers ++ ['\x7d']

def Record.toString (r : Record) : String := String.ofList r.written

def Record.toMembers (r : Record) : Members := r.map fun (key, s) => (key, .ofScalar s)

end UploadMessages.Json
