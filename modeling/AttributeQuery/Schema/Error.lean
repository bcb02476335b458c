import AttributeQuery.Schema.Attribute

/-!
# Faults of schemas

Why a schema is refused, and the message for each reason.
-/

namespace AttributeQuery

/-- Why a binding cannot go through a link attribute. -/
inductive RelationFault where
  | itself
  | notALink
  deriving BEq, DecidableEq, Repr

def RelationFault.message : RelationFault → String
  | .itself => "an attribute cannot be related via itself"
  | .notALink =>
      "only hostname, reverse_hostname and supernet attributes relate servers"

/-- A field that the type of an attribute asks for. -/
inductive ReferenceField where
  | reversedAttribute
  | targetServertype
  deriving BEq, DecidableEq, Repr

def ReferenceField.name : ReferenceField → String
  | .reversedAttribute => "reversed_attribute"
  | .targetServertype => "target_servertype"

inductive Format where
  | json
  | toml
  deriving BEq, DecidableEq, Repr

/-- Why a schema is refused. -/
inductive SchemaError where
  | unknownAttribute (id : AttributeId)
  | unknownServertype (id : ServertypeId)
  | duplicateAttribute (id : AttributeId)
  | duplicateServertype (id : ServertypeId)
  | duplicateBinding (servertype : ServertypeId) (attributeId : AttributeId)
  | invalidReverse (attributeId reversed : AttributeId)
  | invalidRelatedVia (servertype : ServertypeId)
      (attributeId via : AttributeId) (fault : RelationFault)
  | invalidSpecial (attributeId : AttributeId)
  | unknownType (name : String)
  | missingField (attributeId : AttributeId) (field : ReferenceField)
  | malformed (format : Format)
  deriving BEq, DecidableEq, Repr

namespace SchemaError

def message : SchemaError → String
  | .unknownAttribute id => "Unknown attribute: " ++ id
  | .unknownServertype id => "Unknown servertype: " ++ id
  | .duplicateAttribute id => "Duplicate attribute: " ++ id
  | .duplicateServertype id => "Duplicate servertype: " ++ id
  | .duplicateBinding servertype attributeId =>
      "Attribute " ++ attributeId ++ " is bound twice to servertype "
        ++ servertype
  | .invalidReverse attributeId reversed =>
      "Attribute " ++ attributeId ++ " reverses " ++ reversed
        ++ ", which is not a hostname attribute"
  | .invalidRelatedVia servertype attributeId via fault =>
      "Attribute " ++ attributeId ++ " on servertype " ++ servertype
        ++ " cannot be related via " ++ via ++ ": " ++ fault.message
  | .invalidSpecial attributeId =>
      "Special attribute " ++ attributeId ++ " must have a scalar type"
  | .unknownType name => "Unknown attribute type: " ++ name
  | .missingField attributeId field =>
      "Attribute " ++ attributeId ++ ": missing " ++ field.name
  | .malformed .json => "Failed to parse JSON schema"
  | .malformed .toml => "Failed to parse TOML schema"

end SchemaError

end AttributeQuery
