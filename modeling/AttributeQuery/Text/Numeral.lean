import AttributeQuery.Text.Ascii

/-!
# Numerals

Whole numbers as text: decimal digits without leading zeros and a minus sign
where needed; and the value of a run of digits in a given base.
-/

namespace AttributeQuery.Text.Numeral

def ofNat (value : Nat) : String :=
  String.ofList (Nat.toDigits 10 value)

def ofInt : Int → String
  | .ofNat value => ofNat value
  | .negSucc predecessor => "-" ++ ofNat (predecessor + 1)

/-- The value of a run of digits, most significant first; nothing when a
character is no digit. -/
def valueOf? (digit? : Char → Option Nat) (base : Nat) (digits : List Char) :
    Option Nat :=
  digits.foldl
    (fun value? char => do return (← value?) * base + (← digit? char))
    (some 0)

def decimalValue? : List Char → Option Nat
  | [] => none
  | digits => valueOf? Ascii.digitValue? 10 digits

def hexValue? : List Char → Option Nat
  | [] => none
  | digits => valueOf? Ascii.hexDigitValue? 16 digits

/-- A natural number written with decimal digits, any number of leading zeros
and an optional plus sign. -/
def natural? (text : String) : Option Nat :=
  match text.toList with
  | '+' :: digits => decimalValue? digits
  | digits => decimalValue? digits

def integer? (text : String) : Option Int :=
  match text.toList with
  | '-' :: digits => (decimalValue? digits).map fun value => -(value : Int)
  | '+' :: digits => (decimalValue? digits).map fun value => (value : Int)
  | digits => (decimalValue? digits).map fun value => (value : Int)

end AttributeQuery.Text.Numeral
