/-!
Numbers as they are written: natural numbers in digits, in decimal and in the bases up to sixteen, where
letters of either case are digits above nine, and floating-point numbers of 64 bits. The latter are kept
exactly, as a significand below 2^53 times a power of two; a decimal is rounded to the nearest of them, a
tie to the even significand.
-/
set_option autoImplicit false

namespace TargetGraph

namespace Digits

def isDecimal (c : Char) : Bool := '0' ≤ c && c ≤ '9'

def hexadecimal? (c : Char) : Option Nat :=
  if isDecimal c then some (c.toNat - 48)
  else if 'a' ≤ c ∧ c ≤ 'f' then some (c.toNat - 87)
  else if 'A' ≤ c ∧ c ≤ 'F' then some (c.toNat - 55)
  else none

def digit? (base : Nat) (c : Char) : Option Nat :=
  (hexadecimal? c).filter fun value => decide (value < base)

def read? (base : Nat) (text : List Char) : Option Nat :=
  if text.isEmpty then none
  else text.foldlM (fun value c => (digit? base c).map fun digit => value * base + digit) 0

def write (value : Nat) : List Char := Nat.toDigits 10 value

end Digits

/-- A number of the format. A significand that is not zero has 53 bits unless the exponent is the
least one. -/
inductive Binary64 where
  | finite (negative : Bool) (significand : Nat) (exponent : Int)
  | infinite (negative : Bool)
  | notANumber
deriving DecidableEq, Repr, Inhabited

namespace Binary64

def leastExponent : Int := -1074

def greatestExponent : Int := 971

def significandBits : Nat := 53

def significandLimit : Nat := Nat.pow 2 significandBits

def power (base : Nat) (exponent : Int) : Nat × Nat :=
  if 0 ≤ exponent then (base.pow exponent.toNat, 1) else (1, base.pow (-exponent).toNat)

inductive Tie where
  | even | upper
deriving DecidableEq, Repr

def divideToNearest (tie : Tie) (numerator denominator : Nat) : Nat :=
  let quotient := numerator / denominator
  let twice := 2 * (numerator % denominator)
  if twice < denominator then quotient
  else if denominator < twice then quotient + 1
  else
    match tie with
    | .even => quotient + quotient % 2
    | .upper => quotient + 1

def floorLog2 (numerator denominator : Nat) : Int :=
  let guess : Int := (numerator.log2 : Int) - (denominator.log2 : Int)
  let (above, below) := power 2 guess
  if numerator * below < denominator * above then guess - 1 else guess

def ofFraction? (negative : Bool) (numerator denominator : Nat) : Option Binary64 :=
  let exponent := max leastExponent (floorLog2 numerator denominator - (significandBits - 1 : Nat))
  let (above, below) := power 2 exponent
  let significand := divideToNearest .even (numerator * below) (denominator * above)
  let (significand, exponent) :=
    if significand = significandLimit then (significand / 2, exponent + 1)
    else (significand, exponent)
  if greatestExponent < exponent then none else some (finite negative significand exponent)

/-- The nearest number to a decimal: digits times a power of ten. `none` beyond the largest one. -/
def ofDecimal? (negative : Bool) (digits : Nat) (exponent : Int) : Option Binary64 :=
  let size : Int := (Digits.write digits).length + exponent
  if digits = 0 ∨ size < -330 then some (finite negative 0 leastExponent)
  else if 320 < size then none
  else
    let (above, below) := power 10 exponent
    ofFraction? negative (digits * above) below

/-- Equality of the numbers that are meant: zero has no sign, and what is no number equals itself. -/
def same : Binary64 → Binary64 → Bool
  | finite _ 0 _, finite _ 0 _ => true
  | left, right => left == right

structure Decimal where
  digits : Nat
  exponent : Int
deriving DecidableEq, Repr

/-- Whether a decimal would be rounded to a given positive number: whether it lies between the middles
of the gaps around it, the middles included when the significand is even. -/
def roundsTo (significand : Nat) (exponent : Int) (decimal : Decimal) : Bool :=
  let (twoUp, twoDown) := power 2 (exponent - 2)
  let (tenUp, tenDown) := power 10 decimal.exponent
  let value := decimal.digits * tenUp * twoDown
  let unit := tenDown * twoUp
  let lower :=
    if 2 * significand = significandLimit ∧ leastExponent < exponent then 4 * significand - 1
    else 4 * significand - 2
  let upper := 4 * significand + 2
  if significand % 2 = 0 then decide (lower * unit ≤ value) && decide (value ≤ upper * unit)
  else decide (lower * unit < value) && decide (value < upper * unit)

def floorLog10 (numerator denominator : Nat) : Int :=
  let guess : Int := (Digits.write numerator).length - (Digits.write denominator).length
  let (above, below) := power 10 guess
  if numerator * below < denominator * above then guess - 1 else guess

/-- The decimal of at most so many digits that is nearest to a positive number among those that are
rounded to it, if there is one. Only the two neighbours on the grid of that many digits can be. -/
def nearestDecimal? (tie : Tie) (significand : Nat) (exponent : Int) (digitCount : Nat) :
    Option Decimal :=
  let (twoUp, twoDown) := power 2 exponent
  let numerator := significand * twoUp
  let last := floorLog10 numerator twoDown - digitCount + 1
  let (tenUp, tenDown) := power 10 last
  let nearest := divideToNearest tie (numerator * tenDown) (twoDown * tenUp)
  let below := numerator * tenDown / (twoDown * tenUp)
  ([nearest, below, below + 1].map fun digits => Decimal.mk digits last).find?
    (roundsTo significand exponent)

def trimZeros : Nat → Decimal → Decimal
  | 0, decimal => decimal
  | fuel + 1, decimal =>
    if decimal.digits ≠ 0 ∧ decimal.digits % 10 = 0 then
      trimZeros fuel ⟨decimal.digits / 10, decimal.exponent + 1⟩
    else decimal

/-- The fewest digits that are rounded to a number, and of those the nearest. Seventeen are always
enough. -/
def shortest (tie : Tie) (significand : Nat) (exponent : Int) : Decimal :=
  if significand = 0 then ⟨0, 0⟩
  else
    let found := (List.range 17).findSome? fun count =>
      nearestDecimal? tie significand exponent (count + 1)
    trimZeros 20 (found.getD ⟨0, 0⟩)

def signText (negative : Bool) : String := if negative then "-" else ""

/-- All digits in their places, without an exponent. At least one digit stands after the point. -/
def positional (decimal : Decimal) : String :=
  let digits := Digits.write decimal.digits
  if 0 ≤ decimal.exponent then
    String.ofList (digits ++ List.replicate decimal.exponent.toNat '0' ++ ['.', '0'])
  else
    let places := (-decimal.exponent).toNat
    let digits := List.replicate (places + 1 - digits.length) '0' ++ digits
    String.ofList (digits.take (digits.length - places) ++ '.' :: digits.drop (digits.length - places))

/-- A number as messages about an unexpected value show it: of two decimals that are equally near, the
upper one. -/
def positionalText : Binary64 → String
  | finite negative significand exponent =>
    signText negative ++ positional (shortest .upper significand exponent)
  | infinite negative => signText negative ++ "inf"
  | notANumber => "NaN"

def scientific (decimal : Decimal) : String :=
  let digits := Digits.write decimal.digits
  let exponent : Int := decimal.exponent + digits.length - 1
  let significand :=
    match digits with
    | first :: second :: rest => String.ofList (first :: '.' :: second :: rest)
    | _ => String.ofList digits
  s!"{significand}e{exponent}"

/-- A number as a key is shown: positional from 10^-5 up to, not including, 10^16, and with an exponent
elsewhere. Of two decimals that are equally near it is the even one. -/
def keyText : Binary64 → String
  | finite negative 0 _ => signText negative ++ "0.0"
  | finite negative significand exponent =>
    let decimal := shortest .even significand exponent
    let point : Int := (Digits.write decimal.digits).length + decimal.exponent
    signText negative ++
      if -5 < point ∧ point ≤ 16 then positional decimal else scientific decimal
  | infinite negative => signText negative ++ ".inf"
  | notANumber => ".nan"

end Binary64

end TargetGraph
