/-!
# Double-precision numbers

The numbers of the 64-bit binary floating-point format. A finite magnitude is
its place in the ascending list of all finite magnitudes, zero first: neighbours
in the list are neighbours on the number line, and every place below the limit
is taken. `unitsAt` gives the exact value of a place as a multiple of the
smallest positive magnitude, so that all comparisons and roundings are exact
computations with natural numbers.
-/

namespace AttributeQuery.Decimal

/-- The number of magnitudes that share one binary exponent: two to the power
of 52. -/
def binadeSize : Nat := 1 <<< 52

def magnitudeCount : Nat := 2047 * binadeSize

/-- A finite magnitude, given by its place in ascending order. -/
abbrev Magnitude := Fin magnitudeCount

/-- The smallest positive magnitude is two to the power of minus this
exponent. -/
def unitExponent : Nat := 1074

/-- The significand at a place: below the first binade boundary the place
itself, above it the offset in the binade with the leading bit put in front. -/
def significandAt (place : Nat) : Nat :=
  if place < binadeSize then place else binadeSize + place % binadeSize

/-- The binary exponent at a place, counted from that of the smallest positive
magnitude. The first two binades share exponent zero. -/
def exponentAt (place : Nat) : Nat :=
  place / binadeSize - 1

/-- The value at a place as a multiple of the smallest positive magnitude. -/
def unitsAt (place : Nat) : Nat :=
  significandAt place <<< exponentAt place

/-- A double-precision number. Zero has two signs, and all payloads of the
value that is not a number are one. -/
inductive Double where
  | finite (negative : Bool) (magnitude : Magnitude)
  | infinite (negative : Bool)
  | notANumber
  deriving DecidableEq, Repr

namespace Double

def isFinite : Double → Bool
  | .finite _ _ => true
  | _ => false

/-- Equality of numbers: both zeros are equal, and the value that is not a
number differs from everything. -/
def sameNumber : Double → Double → Bool
  | .finite negative magnitude, .finite otherNegative otherMagnitude =>
      magnitude = otherMagnitude &&
        (negative = otherNegative || magnitude.val = 0)
  | .infinite negative, .infinite otherNegative => negative = otherNegative
  | _, _ => false

end Double

end AttributeQuery.Decimal
