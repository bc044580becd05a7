import UploadMessages.Text.Numeral

/-! # Doubles and their decimals

A nonnegative double is the number of its units of 2^-1074, the least positive
double. Such a number has at most 53 binary digits before its trailing zeros, and
lies below `limit`. All arithmetic is exact on quotients of natural numbers and then
rounded once, to the nearest double, a tie to the even one.

A decimal reads back as a double if it lies in the interval of the numbers that round
to it, ends included for an even one. The shortest decimal is taken on the coarsest
grid of powers of ten that has a point there, and is the point nearest to the double,
the even one of a tie. Only the two neighbours of the double on a grid need to be
tried.

A floating point number is written with the digits of the shortest decimal. Their
place is shown plainly, with at least one digit on each side of the point, unless it
is so far from the point that an exponent is clearer.
-/

namespace UploadMessages

namespace Binary64

def one : Nat := Nat.pow 2 1074

/-- The units of 2^1024, the first power of two that is too large for a double. -/
def limit : Nat := Nat.pow 2 2098

/-- The distance from a double to the next, in units. -/
def spacing (units : Nat) : Nat := Nat.pow 2 (units.log2 - 52)

def halfEven (numerator denominator : Nat) : Nat :=
  let whole := numerator / denominator
  let rest := numerator % denominator
  if 2 * rest < denominator then whole
  else if denominator < 2 * rest then whole + 1
  else whole + whole % 2

/-- The double nearest to a quotient of units. -/
def nearest (numerator denominator : Nat) : Nat :=
  let step := spacing (numerator / denominator)
  halfEven numerator (denominator * step) * step

def ofNat (n : Nat) : Nat := nearest (n * one) 1

def mul (a b : Nat) : Nat := nearest (a * b) one

def div (a b : Nat) : Nat := nearest (a * one) b

/-- Whether the double has an even significand, so that a tie goes to it. -/
def isEven (units : Nat) : Bool := units / spacing units % 2 == 0

/-- Whether the double below is nearer than the one above, as it is at a power of two that
begins a wider spacing. -/
def isStep (units : Nat) : Bool := units == Nat.pow 2 units.log2 && 53 ≤ units.log2

end Binary64

structure Decimal where
  coefficient : Nat
  exponent : Int
deriving DecidableEq, Repr

namespace Decimal

/-- The exponent of the leading digit of a positive quotient. -/
def leading (numerator denominator : Nat) : Int :=
  if denominator ≤ numerator then
    (Numeral.ofNat 10 (numerator / denominator)).length - 1
  else
    -((Numeral.ofNat 10 ((denominator - 1) / numerator)).length : Int)

/-- A double between the ends of its interval, all counted in units of `1 / scale`. -/
structure Interval where
  scale : Nat
  low : Nat
  middle : Nat
  high : Nat
  closed : Bool

/-- Ends lie half a spacing away, which a quarter of a unit measures. -/
def interval (units : Nat) : Interval :=
  let step := Binary64.spacing units
  { scale := 4 * Binary64.one
    low := 4 * units - (if Binary64.isStep units then step else 2 * step)
    middle := 4 * units
    high := 4 * units + 2 * step
    closed := Binary64.isEven units }

/-- The interval counted on the grid of `10 ^ exponent`. -/
def Interval.onGrid (i : Interval) (exponent : Int) : Interval :=
  let finer := Nat.pow 10 (-exponent).toNat
  { i with
    scale := i.scale * Nat.pow 10 exponent.toNat
    low := i.low * finer
    middle := i.middle * finer
    high := i.high * finer }

def Interval.holds (i : Interval) (point : Nat) : Bool :=
  let n := point * i.scale
  if i.closed then i.low ≤ n && n ≤ i.high else i.low < n && n < i.high

/-- The neighbour of the middle that the interval holds, the nearer one of two. -/
def Interval.neighbour? (i : Interval) : Option Nat :=
  let below := i.middle / i.scale
  let above := below + 1
  if i.holds below then
    if i.holds above then some (Binary64.halfEven i.middle i.scale) else some below
  else if i.holds above then some above
  else none

/-- Seventeen digits always suffice. -/
def shortest (units : Nat) : Decimal :=
  let i := interval units
  let top := leading i.middle i.scale
  let hit (count : Nat) : Option Decimal :=
    let exponent := top + 1 - count
    (i.onGrid exponent).neighbour?.map fun point => ⟨point, exponent⟩
  ((List.range' 1 17).findSome? hit).getD ⟨0, 0⟩

/-- The exponents of the leading digit between which a number is written plainly. -/
structure Layout where
  plainFrom : Int
  plainTo : Int

/-- From 0.00001 to below 10^16. -/
def Layout.floatingPoint : Layout := ⟨-5, 15⟩

def dropTrailingZeros (digits : Numeral 10) : Numeral 10 :=
  (digits.reverse.dropWhile (·.val == 0)).reverse

/-- Digits before and after the point, a zero standing for none. -/
def pointed (whole fraction : List Char) : List Char :=
  (if whole.isEmpty then ['0'] else whole) ++ '.' :: (if fraction.isEmpty then ['0'] else fraction)

def Layout.write (layout : Layout) (d : Decimal) : List Char :=
  let numeral := Numeral.ofNat 10 d.coefficient
  let lead : Int := d.exponent + numeral.length - 1
  let digits := (dropTrailingZeros numeral).toChars
  if layout.plainFrom ≤ lead ∧ lead ≤ layout.plainTo then
    if lead < 0 then pointed [] (List.replicate (-lead - 1).toNat '0' ++ digits)
    else
      let count := lead.toNat + 1
      pointed (digits.take count ++ List.replicate (count - digits.length) '0') (digits.drop count)
  else
    digits.take 1 ++ (if digits.length ≤ 1 then [] else '.' :: digits.drop 1) ++
      'e' :: (if lead < 0 then '-' else '+') :: (Numeral.ofNat 10 lead.natAbs).toChars

/-- A double, given by its sign and its units of 2^-1074. -/
def floatingPoint (negative : Bool) (units : Nat) : String :=
  let magnitude :=
    if units = 0 then pointed [] [] else Layout.floatingPoint.write (shortest units)
  String.ofList (if negative then '-' :: magnitude else magnitude)

end Decimal

end UploadMessages
