import AttributeQuery.Decimal.Style
import AttributeQuery.Filter.Basic
import AttributeQuery.Schema.Error
import AttributeQuery.Sql.Dialect
import AttributeQuery.Text.Inlinable

/-!
# Faults of queries

Why a filter cannot be compiled, and the message for each reason.
-/

namespace AttributeQuery

inductive Expectation where
  | valueOf (domain : ValueDomain)
  | hostname
  deriving BEq, DecidableEq, Repr

def Expectation.name : Expectation → String
  | .valueOf domain => domain.name
  | .hostname => "hostname"

/-- Why a value cannot be bound. -/
inductive Unencodable where
  | text (refused : String) (fault : Text.Inlinable.Fault)
  | notFinite (value : Decimal.Double)
  deriving DecidableEq

def Unencodable.message : Unencodable → String
  | .text refused fault => fault.describe refused
  | .notFinite value => value.toText ++ " is not a finite number"

/-- Why a filter cannot be compiled. -/
inductive CompileError where
  | typeMismatch (id : AttributeId) (expected : Expectation)
      (found : LiteralType)
  | unsupportedOperator (id : AttributeId) (operator : Operator)
      (type : AttributeType)
  | unorderableType (id : AttributeId)
  | unencodableValue (reason : Unencodable)
  | unreachableAttribute (id : AttributeId)
  | unknownHostname (hostname : String)
  | relationDepthExceeded (via : AttributeId) (maxDepth : Nat)
  | unsupportedByDialect (dialect : Dialect) (feature : Feature)
  | schema (error : SchemaError)
  deriving DecidableEq

def CompileError.message : CompileError → String
  | .typeMismatch id expected found =>
      "Type mismatch for " ++ id ++ ": expected " ++ expected.name ++
        ", found " ++ found.name
  | .unsupportedOperator id operator type =>
      "Unsupported operator " ++ operator.name ++ "() on " ++ type.name ++
        " attribute " ++ id
  | .unorderableType id => "Attribute " ++ id ++ " has no ordering"
  | .unencodableValue reason =>
      "Value cannot be encoded safely: " ++ reason.message
  | .unreachableAttribute id =>
      "Attribute " ++ id ++ " is not reachable from the requested servertypes"
  | .unknownHostname hostname => "Unknown hostname: " ++ hostname
  | .relationDepthExceeded via maxDepth =>
      "Resolving " ++ via ++ " needs more than " ++ Text.Numeral.ofNat maxDepth
        ++ " related-via steps"
  | .unsupportedByDialect dialect feature =>
      "The " ++ dialect.name ++ " dialect does not support " ++ feature.name
  | .schema error => "Schema error: " ++ error.message

def Dialect.require (dialect : Dialect) (feature : Feature) :
    Except CompileError Unit :=
  if dialect.supports feature then .ok ()
  else .error (.unsupportedByDialect dialect feature)

def Dialect.requireMatchOperator (dialect : Dialect) :
    Except CompileError String := do
  dialect.require .regularExpressions
  return Dialect.matchOperator

end AttributeQuery
