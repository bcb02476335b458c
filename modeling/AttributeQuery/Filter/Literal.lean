import AttributeQuery.Decimal.Double
import AttributeQuery.Network.Address

/-!
# Literals

The operands of filters, tagged with the type they were written with.
-/

namespace AttributeQuery

/-- The operand of a filter. -/
inductive Literal where
  | boolean (value : Bool)
  | integer (value : Int64)
  | float (value : Decimal.Double)
  | string (text : String)
  | inet (network : Network)
  deriving DecidableEq

inductive LiteralType where
  | boolean
  | integer
  | float
  | string
  | inet
  deriving BEq, DecidableEq, Repr

def LiteralType.name : LiteralType → String
  | .boolean => "boolean"
  | .integer => "integer"
  | .float => "float"
  | .string => "string"
  | .inet => "inet"

namespace Literal

def type : Literal → LiteralType
  | .boolean _ => .boolean
  | .integer _ => .integer
  | .float _ => .float
  | .string _ => .string
  | .inet _ => .inet

/-- Equality of literals, floats being compared as numbers. -/
def same : Literal → Literal → Bool
  | .boolean value, .boolean other => value = other
  | .integer value, .integer other => value = other
  | .float value, .float other => value.sameNumber other
  | .string text, .string other => text = other
  | .inet network, .inet other => network = other
  | _, _ => false

end Literal

end AttributeQuery
