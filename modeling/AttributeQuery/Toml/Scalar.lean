import AttributeQuery.Decimal.Reading
import AttributeQuery.Toml.Text
import AttributeQuery.Toml.Value

/-!
# TOML scalars without quotes

Booleans, integers in four bases, floats and moments. All of them are made of
one class of characters, and none of these may directly follow a scalar, so a
scalar is always the longest run of such characters.
-/

namespace AttributeQuery.Toml

open Text.Ascii

def isScalarChar (char : Char) : Bool :=
  isLetter char || isDigit char || char = '_' || char = '+' || char = '-' ||
    char = '.' || char = ':'

/-- The digits of a run in which single underscores may stand between two
digits. -/
def groupedDigits? (digit? : Char → Option Nat) : List Char → Option (List Char)
  | [] => none
  | [last] => (digit? last).map fun _ => [last]
  | first :: '_' :: second :: rest => do
      let _ ← digit? first
      let digits ← groupedDigits? digit? (second :: rest)
      return first :: digits
  | first :: second :: rest => do
      let _ ← digit? first
      let digits ← groupedDigits? digit? (second :: rest)
      return first :: digits

/-- The digits of a whole number, which has no zero in front. -/
def wholeDigits? (chars : List Char) : Option (List Char) := do
  let digits ← groupedDigits? digitValue? chars
  match digits with
  | '0' :: _ :: _ => none
  | digits => some digits

/-- The integers that a document can hold: those of 64 bits with sign. -/
def inRange? (value : Int) : Option Int :=
  if -0x8000000000000000 ≤ value ∧ value < 0x8000000000000000 then
    some value
  else none

def digitBelow? (base : Nat) (char : Char) : Option Nat :=
  (digitValue? char).filter (· < base)

/-- The value of digits in a base, with underscores between them. -/
def basedInteger? (digit? : Char → Option Nat) (base : Nat)
    (chars : List Char) : Option Int := do
  let digits ← groupedDigits? digit? chars
  let value ← Text.Numeral.valueOf? digit? base digits
  inRange? value

/-- Read an integer. Only decimal ones have a sign. -/
def integer? : List Char → Option Int
  | '0' :: 'x' :: digits => basedInteger? hexDigitValue? 16 digits
  | '0' :: 'o' :: digits => basedInteger? (digitBelow? 8) 8 digits
  | '0' :: 'b' :: digits => basedInteger? (digitBelow? 2) 2 digits
  | chars => do
      let (negative, chars) := Decimal.splitSign chars
      let value ← Text.Numeral.decimalValue? (← wholeDigits? chars)
      inRange? (if negative then -(value : Int) else value)

/-- The exponent of a float: none, or `e` and a signed run of digits. -/
def floatExponent? : List Char → Option Int
  | [] => some 0
  | mark :: rest =>
      if mark = 'e' || mark = 'E' then do
        let (negative, chars) := Decimal.splitSign rest
        let value ← Text.Numeral.decimalValue?
          (← groupedDigits? digitValue? chars)
        return if negative then -(value : Int) else value
      else none

def isExponentMark (char : Char) : Bool :=
  char = 'e' || char = 'E'

/-- The decimal of an unsigned float, which has a point or an exponent. -/
def floatDecimal? (negative : Bool) (chars : List Char) :
    Option Decimal.Scaled := do
  let isWholePart (char : Char) : Bool := isDigit char || char = '_'
  let whole ← wholeDigits? (chars.takeWhile isWholePart)
  match chars.dropWhile isWholePart with
  | [] => none
  | '.' :: rest =>
      let fraction ← groupedDigits? digitValue?
        (rest.takeWhile (!isExponentMark ·))
      let exponent ← floatExponent? (rest.dropWhile (!isExponentMark ·))
      Decimal.Scaled.ofDigits? negative whole fraction exponent
  | rest => Decimal.Scaled.ofDigits? negative whole [] (← floatExponent? rest)

/-- Read a float. A decimal above every finite double is refused; one below
every finite double is negative infinity. -/
def float? (chars : List Char) : Option Decimal.Double := do
  let (negative, chars) := Decimal.splitSign chars
  if chars = ['i', 'n', 'f'] then return .infinite negative
  if chars = ['n', 'a', 'n'] then return .notANumber
  let double := (← floatDecimal? negative chars).toDouble
  if double = .infinite false then none else double

/-- The value of exactly two digits, when it is in a range. -/
def twoDigits? (least greatest : Nat) (first second : Char) : Option Nat := do
  let value ← Text.Numeral.decimalValue? [first, second]
  if least ≤ value ∧ value ≤ greatest then some value else none

def daysInMonth (year month : Nat) : Nat :=
  if month = 2 then
    if year % 4 = 0 && (year % 100 ≠ 0 || year % 400 = 0) then 29 else 28
  else if month = 4 || month = 6 || month = 9 || month = 11 then 30
  else 31

def skipDate? : List Char → Option (List Char)
  | y1 :: y2 :: y3 :: y4 :: '-' :: m1 :: m2 :: '-' :: d1 :: d2 :: rest => do
      let year ← Text.Numeral.decimalValue? [y1, y2, y3, y4]
      let month ← twoDigits? 1 12 m1 m2
      let _ ← twoDigits? 1 (daysInMonth year month) d1 d2
      return rest
  | _ => none

/-- The characters after a time of the day. A minute may have a leap second. -/
def skipTime? : List Char → Option (List Char)
  | h1 :: h2 :: ':' :: m1 :: m2 :: ':' :: s1 :: s2 :: rest => do
      let _ ← twoDigits? 0 23 h1 h2
      let _ ← twoDigits? 0 59 m1 m2
      let _ ← twoDigits? 0 60 s1 s2
      match rest with
      | '.' :: digit :: fraction =>
          if isDigit digit then some (fraction.dropWhile isDigit) else none
      | rest => some rest
  | _ => none

/-- Whether the characters are an offset from universal time, or nothing. -/
def isOffset : List Char → Bool
  | [] => true
  | ['Z'] => true
  | ['z'] => true
  | [sign, h1, h2, ':', m1, m2] =>
      (sign = '+' || sign = '-') && (twoDigits? 0 23 h1 h2).isSome &&
        (twoDigits? 0 59 m1 m2).isSome
  | _ => false

def isTimeWithOffset (chars : List Char) : Bool :=
  ((skipTime? chars).map isOffset).getD false

def isDate (chars : List Char) : Bool :=
  skipDate? chars = some []

/-- Whether the characters are a time, a date, or both with a letter between. -/
def isMoment (chars : List Char) : Bool :=
  skipTime? chars = some [] ||
    match skipDate? chars with
    | some [] => true
    | some (mark :: rest) => (mark = 'T' || mark = 't') && isTimeWithOffset rest
    | none => false

def scalar? (chars : List Char) : Option Value :=
  if chars = ['t', 'r', 'u', 'e'] then some (.boolean true)
  else if chars = ['f', 'a', 'l', 's', 'e'] then some (.boolean false)
  else if isMoment chars then some (.moment (String.ofList chars))
  else
    ((integer? chars).map Value.integer).or ((float? chars).map Value.float)

/-- Read an unquoted scalar. A date may be followed by one blank and a time. -/
def readScalar? : Reader Value := fun chars => do
  let run := chars.takeWhile isScalarChar
  let rest := chars.dropWhile isScalarChar
  let value ← scalar? run
  match rest with
  | ' ' :: next =>
      let time := next.takeWhile isScalarChar
      if isDate run && isTimeWithOffset time then
        return (.moment (String.ofList (run ++ ' ' :: time)),
          next.dropWhile isScalarChar)
      else return (value, rest)
  | _ => return (value, rest)

end AttributeQuery.Toml
