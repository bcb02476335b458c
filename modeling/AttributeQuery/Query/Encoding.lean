import AttributeQuery.Network.Reading
import AttributeQuery.Network.Writing
import AttributeQuery.Query.Error

/-!
# Bound values

Every literal becomes a bound value of the kind its domain asks for, so a
parameter never changes its type with the literal. Texts have to be inlinable,
numbers finite, and networks are bound in canonical form.
-/

namespace AttributeQuery

/-- Check that a text can stand between quotes. -/
def requireInlinable (text : String) : Except CompileError Unit :=
  match Text.Inlinable.fault? text.toList with
  | none => .ok ()
  | some fault => .error (.unencodableValue (.text text fault))

/-- The value bound for a literal that is compared with an attribute whose
values are of a domain. -/
def encodeValue (id : AttributeId) (domain : ValueDomain) (literal : Literal) :
    Except CompileError SqlValue :=
  let mismatch := CompileError.typeMismatch id (.valueOf domain) literal.type
  match domain, literal with
  | .boolean, .boolean value => .ok (.integer (if value then 1 else 0))
  | .number, .integer value => .ok (.text (Text.Numeral.ofInt value.toInt))
  | .number, .float value =>
      if value.isFinite then .ok (.text value.toText)
      else .error (.unencodableValue (.notFinite value))
  | .inet, .inet network => .ok (.text network.canonicalText)
  | .inet, .string text => do
      requireInlinable text
      match Network.read? text with
      | some network => .ok (.text network.canonicalText)
      | none => .error mismatch
  | .string, .string text | .macaddr, .string text | .date, .string text
  | .datetime, .string text => do
      requireInlinable text
      return .text text
  | _, _ => .error mismatch

end AttributeQuery
