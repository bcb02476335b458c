import AttributeQuery.Decimal.Double

/-!
# JSON values

A number is a whole number between the least signed and the greatest unsigned
64-bit integer, or a finite double. The members of an object are a list; a value
read from text has them in ascending order of their keys, each key once.
-/

namespace AttributeQuery.Json

/-- The integers a JSON number can hold exactly: those of 64 bits, be it with or
without sign. -/
abbrev WholeNumber :=
  { value : Int // -0x8000000000000000 ≤ value ∧ value < 0x10000000000000000 }

inductive Number where
  | whole (value : WholeNumber)
  | double (negative : Bool) (magnitude : Decimal.Magnitude)
  deriving DecidableEq, Repr

inductive Value where
  | null
  | boolean (value : Bool)
  | number (value : Number)
  | string (text : String)
  | array (items : List Value)
  | object (members : List (String × Value))
  deriving Repr

end AttributeQuery.Json
