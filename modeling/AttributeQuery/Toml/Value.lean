import AttributeQuery.Decimal.Double

/-!
# TOML values

A TOML document is a table. Dates, times and their combinations are moments,
kept as written.
-/

namespace AttributeQuery.Toml

inductive Value where
  | string (text : String)
  | integer (value : Int)
  | float (value : Decimal.Double)
  | boolean (value : Bool)
  | moment (text : String)
  | array (items : List Value)
  | table (entries : List (String × Value))
  deriving Repr

end AttributeQuery.Toml
