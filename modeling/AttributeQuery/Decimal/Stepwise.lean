import AttributeQuery.Decimal.Reading

/-!
# Decimals computed in doubles

The quick way to read a decimal: as many leading digits as fit 64 bits become a
double, which is then multiplied with or divided by powers of ten that are
doubles themselves. Every step rounds to the nearest double, so the result may
lie a few places away from the double nearest to the decimal.
-/

namespace AttributeQuery.Decimal

def appendDigits (value : Nat) : List Char → Nat × List Char
  | [] => (value, [])
  | char :: rest =>
      match Text.Ascii.digitValue? char with
      | none => (value, char :: rest)
      | some digit =>
          if value * 10 + digit < UInt64.size then appendDigits
            (value * 10 + digit) rest
          else (value, char :: rest)

/-- The decimal of the leading digits before and after a point, with an
exponent. A digit left out before the point raises the power; those left out
after it change nothing. The digits after the point follow the ones taken before
it, even where some between them are left out. -/
def Scaled.ofLeadingDigits (negative : Bool) (whole fraction : List Char)
    (exponent : Int) : Scaled :=
  let (value, leftOfWhole) := appendDigits 0 whole
  let (coefficient, leftOfFraction) := appendDigits value fraction
  let taken := fraction.length - leftOfFraction.length
  { negative, coefficient, power := exponent + leftOfWhole.length - taken }

/-- The greatest power of ten that is a finite double. -/
def greatestPower : Nat := 308

def powerPlace (power : Nat) : Nat :=
  nearestPlace (Nat.pow 10 power) 1

def productPlace (first second : Nat) : Nat :=
  nearestPlace (unitsAt first * unitsAt second) (1 <<< (2 * unitExponent))

def quotientPlace (dividend divisor : Nat) : Nat :=
  nearestPlace (unitsAt dividend) (unitsAt divisor)

/-- The place of a magnitude divided by a power of ten, in two steps where that
power is no finite double. A coefficient of 64 bits divided by more than two
greatest powers is zero. -/
def dividedPlace (place power : Nat) : Nat :=
  if power ≤ greatestPower then quotientPlace place (powerPlace power)
  else if power ≤ 2 * greatestPower then
    quotientPlace (quotientPlace place (powerPlace greatestPower))
      (powerPlace (power - greatestPower))
  else 0

def Scaled.stepwiseDouble (decimal : Scaled) : Double :=
  let place := nearestPlace decimal.coefficient 1
  if decimal.coefficient = 0 then .atPlace decimal.negative 0
  else if decimal.power < 0 then
    .atPlace decimal.negative (dividedPlace place (-decimal.power).toNat)
  else if decimal.power ≤ greatestPower then
    .atPlace decimal.negative
      (productPlace place (powerPlace decimal.power.toNat))
  else .infinite decimal.negative

end AttributeQuery.Decimal
