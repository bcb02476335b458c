import AttributeQuery.Decimal.Double

/-!
# Shortest decimals

The decimal with the fewest digits that still reads as a given magnitude. A
number reads as a magnitude when it is nearer to it than to its neighbours; a
number in the middle between two neighbours reads as the one with the even
place. Of two equally short decimals the nearer one is taken.
-/

namespace AttributeQuery.Decimal

structure Digits where
  coefficient : Nat
  power : Int
  deriving BEq, DecidableEq, Repr

/-- Which of two equally near candidates is taken. -/
inductive Tie where
  | up
  | toEven
  deriving BEq, DecidableEq, Repr

/-- The lower end of the interval of numbers that read as the magnitude at a
place, in halves of the smallest positive magnitude. -/
def lowerEnd (place : Nat) : Nat := unitsAt (place - 1) + unitsAt place

def upperEnd (place : Nat) : Nat := unitsAt place + unitsAt (place + 1)

/-- Whether `candidate` steps, measured on a scale, lie in the interval of the
magnitude at a place. The ends belong to the interval of an even place. -/
def readsAs (place scale step candidate : Nat) : Bool :=
  let point := candidate * step
  if place % 2 = 0 then
    lowerEnd place * scale ≤ point && point ≤ upperEnd place * scale
  else
    lowerEnd place * scale < point && point < upperEnd place * scale

/-- The nearer of a grid point and the next one, given twice the exact value. -/
def nearer (tie : Tie) (lower step value : Nat) : Nat :=
  let below := value - lower * step
  let above := (lower + 1) * step - value
  if below < above then lower
  else if above < below then lower + 1
  else match tie with
    | .up => lower + 1
    | .toEven => lower + lower % 2

/-- The multiple of a power of ten that reads as the magnitude at a place, if
there is one. Only the two multiples around the exact value can be nearest. -/
def onGrid? (tie : Tie) (place : Nat) (power : Int) : Option Digits :=
  let step := Nat.pow 10 power.toNat <<< (unitExponent + 1)
  let scale := Nat.pow 10 (-power).toNat
  let value := 2 * unitsAt place * scale
  let lower := value / step
  match readsAs place scale step lower,
      readsAs place scale step (lower + 1) with
  | true, true => some ⟨nearer tie lower step value, power⟩
  | true, false => some ⟨lower, power⟩
  | false, true => some ⟨lower + 1, power⟩
  | false, false => none

/-- The powers of ten to try, coarsest first. The finest one is smaller than
the distance between any two neighbours. -/
def gridPowers : List Int :=
  (List.range 634).map fun (index : Nat) => 309 - (index : Int)

def shortest (tie : Tie) (magnitude : Magnitude) : Digits :=
  if magnitude.val = 0 then ⟨0, 0⟩
  else (gridPowers.findSome? (onGrid? tie magnitude.val)).getD ⟨0, 0⟩

end AttributeQuery.Decimal
