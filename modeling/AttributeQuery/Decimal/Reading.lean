import AttributeQuery.Decimal.Double
import AttributeQuery.Text.Numeral

/-!
# Reading decimals

A decimal is a coefficient times a power of ten. It reads as the nearest double,
a tie as the one whose significand is even; beyond the greatest finite
magnitude it reads as infinite.
-/

namespace AttributeQuery.Decimal

/-- A signed decimal: `coefficient` times ten to the `power`. -/
structure Scaled where
  negative : Bool
  coefficient : Nat
  power : Int
  deriving BEq, DecidableEq, Repr

/-- A quotient rounded to the nearest natural number, a tie to the even one. -/
def roundedQuotient (numerator denominator : Nat) : Nat :=
  let quotient := numerator / denominator
  let twiceRest := 2 * (numerator % denominator)
  if twiceRest < denominator then quotient
  else if denominator < twiceRest then quotient + 1
  else quotient + quotient % 2

/-- The place of the magnitude nearest to a quotient. The binary exponent is
chosen so that the rounded significand has 53 bits where possible; a carry into
the next binade continues the list of places without a gap. -/
def nearestPlace (numerator denominator : Nat) : Nat :=
  let units := numerator <<< unitExponent
  let exponent := Nat.log2 (units / denominator) - 52
  exponent * binadeSize + roundedQuotient units (denominator <<< exponent)

/-- The double at a place, infinite when the place is past the last one. -/
def Double.atPlace (negative : Bool) (place : Nat) : Double :=
  if isFinite : place < magnitudeCount then .finite negative ⟨place, isFinite⟩
  else .infinite negative

/-- Decimals from ten to this power on are above every finite magnitude. -/
def overflowPower : Int := 310

/-- Decimals below ten to this power are nearer to zero than to any other
magnitude. -/
def underflowPower : Int := -330

/-- The double nearest to a decimal. Decimals far out of range are settled by
their size alone, so that no huge power of ten is computed. -/
def Scaled.toDouble (decimal : Scaled) : Double :=
  let size := (Nat.toDigits 10 decimal.coefficient).length + decimal.power
  if decimal.coefficient = 0 || size < underflowPower then
    .atPlace decimal.negative 0
  else if overflowPower < size then
    .infinite decimal.negative
  else
    .atPlace decimal.negative
      (nearestPlace (decimal.coefficient * Nat.pow 10 decimal.power.toNat)
        (Nat.pow 10 (-decimal.power).toNat))

def Scaled.ofDigits? (negative : Bool) (whole fraction : List Char)
    (exponent : Int) : Option Scaled := do
  let coefficient ← Text.Numeral.decimalValue? (whole ++ fraction)
  return { negative, coefficient, power := exponent - fraction.length }

def splitSign : List Char → Bool × List Char
  | '-' :: rest => (true, rest)
  | '+' :: rest => (false, rest)
  | rest => (false, rest)

def exponent? : List Char → Option Int
  | [] => some 0
  | mark :: rest =>
      if mark = 'e' || mark = 'E' then do
        let (negative, digits) := splitSign rest
        let value ← Text.Numeral.decimalValue? digits
        return if negative then -(value : Int) else value
      else none

def Scaled.read? (negative : Bool) (chars : List Char) : Option Scaled := do
  let whole := chars.takeWhile Text.Ascii.isDigit
  match chars.dropWhile Text.Ascii.isDigit with
  | '.' :: rest =>
      let exponent ← exponent? (rest.dropWhile Text.Ascii.isDigit)
      Scaled.ofDigits? negative whole
        (rest.takeWhile Text.Ascii.isDigit) exponent
  | rest =>
      let exponent ← exponent? rest
      Scaled.ofDigits? negative whole [] exponent

def Double.read? (text : String) : Option Double :=
  let (negative, chars) := splitSign text.toList
  if chars = ['i', 'n', 'f'] then some (.infinite negative)
  else if chars = ['N', 'a', 'N'] then some .notANumber
  else (Scaled.read? negative chars).map Scaled.toDouble

end AttributeQuery.Decimal
