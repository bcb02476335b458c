import AttributeQuery.Filter.Basic
import AttributeQuery.Json.Writing

/-!
# Faults of filters in the exchange format

Why a JSON value is no filter, and the message for each reason.
-/

namespace AttributeQuery

/-- What is wrong with the argument of an operator. -/
inductive ArgumentFault where
  | bareList
  | bareNull
  | notAPattern (got : Json.Value)
  | notEmpty
  | notAList (got : Json.Value)
  | notAScalar (got : Json.Value)

def ArgumentFault.message : ArgumentFault → String
  | .bareList => "lists must be wrapped in Any()"
  | .bareNull => "null is not a value, use Empty()"
  | .notAPattern got => "expected a pattern string, got " ++ got.write
  | .notEmpty => "takes no argument"
  | .notAList got => "expected a list of filters, got " ++ got.write
  | .notAScalar got => "expected a scalar value, got " ++ got.write

/-- Why a text or a value is no filter or no query. -/
inductive FilterError where
  | unknownFilter (name : String)
  | invalidArgument (operator : Operator) (fault : ArgumentFault)
  | malformedObject (memberCount : Nat)
  | malformedQuery
  | malformedText

def FilterError.message : FilterError → String
  | .unknownFilter name => "Unknown filter: " ++ name
  | .invalidArgument operator fault =>
      "Invalid argument for " ++ operator.name ++ "(): " ++ fault.message
  | .malformedObject memberCount =>
      "Filter objects must have exactly one key, got " ++
        Text.Numeral.ofNat memberCount
  | .malformedQuery => "Query must be a JSON object of attribute filters"
  | .malformedText => "Invalid JSON"

end AttributeQuery
