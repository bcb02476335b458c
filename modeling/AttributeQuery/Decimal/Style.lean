import AttributeQuery.Decimal.Shortest

/-!
# Writing doubles

How a double is laid out as text once its digits are known. `Style` collects
the decisions; `plain` never uses an exponent, `exchange` is the form of the
JSON format.
-/

namespace AttributeQuery.Decimal

structure Style where
  /-- Whether a number whose first digit has this decimal exponent is written
  positionally. -/
  isPositional : Int → Bool
  /-- What follows the digits of a number without fraction. -/
  wholeSuffix : List Char
  /-- Which of two equally near shortest decimals is written. -/
  tie : Tie

def Style.plain : Style :=
  { isPositional := fun _ => true, wholeSuffix := [], tie := .up }

/-- Positional from ten to the minus fifth up to ten to the sixteenth, with at
least one digit after the point, otherwise with a signed exponent. -/
def Style.exchange : Style :=
  { isPositional := fun exponent => -5 ≤ exponent && exponent < 16
    wholeSuffix := ['.', '0']
    tie := .toEven }

/-- Digits with the point after the first `pointAt` of them, padded with zeros
on either side where the point lies outside. -/
def positional (wholeSuffix digits : List Char) (pointAt : Int) : List Char :=
  if digits.length ≤ pointAt then
    digits ++ List.replicate (pointAt - digits.length).toNat '0' ++ wholeSuffix
  else if 0 < pointAt then
    digits.take pointAt.toNat ++ '.' :: digits.drop pointAt.toNat
  else
    '0' :: '.' :: (List.replicate (-pointAt).toNat '0' ++ digits)

def scientific (digits : List Char) (exponent : Int) : List Char :=
  let mantissa := match digits with
    | first :: second :: rest => first :: '.' :: second :: rest
    | short => short
  let sign := if exponent < 0 then '-' else '+'
  mantissa ++ 'e' :: sign :: Nat.toDigits 10 exponent.natAbs

def Style.write (style : Style) (negative : Bool) (magnitude : Magnitude) :
    String :=
  let shortest := shortest style.tie magnitude
  let digits := Nat.toDigits 10 shortest.coefficient
  let pointAt := digits.length + shortest.power
  let text :=
    if style.isPositional (pointAt - 1) then positional style.wholeSuffix
      digits pointAt
    else scientific digits (pointAt - 1)
  String.ofList (if negative then '-' :: text else text)

def Double.toText : Double → String
  | .finite negative magnitude => Style.plain.write negative magnitude
  | .infinite false => "inf"
  | .infinite true => "-inf"
  | .notANumber => "NaN"

end AttributeQuery.Decimal
