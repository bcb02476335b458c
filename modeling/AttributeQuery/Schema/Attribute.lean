/-!
# Attributes

An attribute has an identifier, a type, and possibly a column of the server
table that holds its value. A scalar carries a value of some domain; the link
types lead to other servers.
-/

namespace AttributeQuery

abbrev AttributeId := String

abbrev ServertypeId := String

/-- The domain of the values of a scalar attribute. -/
inductive ValueDomain where
  | boolean
  | number
  | string
  | inet
  | macaddr
  | date
  | datetime
  deriving BEq, DecidableEq, Repr

namespace ValueDomain

def all : List ValueDomain :=
  [.boolean, .number, .string, .inet, .macaddr, .date, .datetime]

/-- The name of a domain in documents and messages. -/
def name : ValueDomain → String
  | .boolean => "boolean"
  | .number => "number"
  | .string => "string"
  | .inet => "inet"
  | .macaddr => "macaddr"
  | .date => "date"
  | .datetime => "datetime"

def ofName? (name : String) : Option ValueDomain :=
  all.find? (·.name = name)

end ValueDomain

/-- How the values of an attribute are typed and reached. -/
inductive AttributeType where
  /-- A plain value. -/
  | scalar (domain : ValueDomain)
  /-- A link to another server, stored as that server's id. -/
  | hostname (target : Option ServertypeId)
  /-- The servers whose `reversed` attribute links to this one. -/
  | reverseHostname (reversed : AttributeId)
  /-- The servers of a servertype whose network contains this one's. -/
  | supernet (target : ServertypeId)
  deriving BEq, DecidableEq, Repr

namespace AttributeType

def name : AttributeType → String
  | .scalar domain => domain.name
  | .hostname _ => "hostname"
  | .reverseHostname _ => "reverse_hostname"
  | .supernet _ => "supernet"

/-- Whether a type leads to other servers instead of carrying a value. -/
def isLink : AttributeType → Bool
  | .scalar _ => false
  | _ => true

def isHostname : AttributeType → Bool
  | .hostname _ => true
  | _ => false

/-- The servertype whose servers a type leads to, where it names one. -/
def target? : AttributeType → Option ServertypeId
  | .hostname target => target
  | .supernet target => some target
  | _ => none

def reversed? : AttributeType → Option AttributeId
  | .reverseHostname reversed => some reversed
  | _ => none

end AttributeType

/-- A field of the server table that holds the value of an attribute. -/
structure SpecialField where
  field : String
  deriving BEq, DecidableEq, Repr

namespace SpecialField

/-- The characters of a column name: those of the field without the underscore
that marks an internal one. -/
def columnChars : List Char → List Char
  | '_' :: rest => rest
  | chars => chars

def column (special : SpecialField) : String :=
  String.ofList (columnChars special.field.toList)

end SpecialField

structure Attribute where
  id : AttributeId
  type : AttributeType
  special : Option SpecialField := none
  /-- Whether a server may have several values. -/
  isMulti : Bool := false
  deriving BEq, DecidableEq, Repr

namespace Attribute

/-- Whether the value is held by a column of the server table. -/
def isSpecial (attr : Attribute) : Bool :=
  attr.special.isSome

def isBoolean (attr : Attribute) : Bool :=
  attr.type = .scalar .boolean

def isLink (attr : Attribute) : Bool :=
  attr.type.isLink

end Attribute

/-- The servers of a servertype carry an attribute: themselves, or through the
server that a link attribute leads to. -/
structure Binding where
  servertype : ServertypeId
  attributeId : AttributeId
  relatedVia : Option AttributeId := none
  deriving BEq, DecidableEq, Repr

end AttributeQuery
