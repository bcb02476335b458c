import AttributeQuery.Filter.Error
import AttributeQuery.Json.Reading
import AttributeQuery.Network.Writing
import AttributeQuery.Schema.Attribute

/-!
# The exchange format of filters

A bare scalar is an equality filter. Every other filter is an object with one
member, which names the operator and holds its argument. Networks are written
as strings, and floats that are not finite as null, so these do not read back as
what they were.
-/

namespace AttributeQuery

/-- The integers of a literal are whole numbers of the exchange format. -/
def Json.WholeNumber.ofInt64 (value : Int64) : Json.WholeNumber :=
  ⟨value.toInt, by
    have lower := value.le_toInt
    have upper := value.toInt_lt
    constructor <;> omega⟩

namespace Literal

/-- The literal of a number: an integer when it fits 64 bits with sign,
otherwise a float. -/
def ofNumber : Json.Number → Literal
  | .whole value =>
      if value.val < 0x8000000000000000 then .integer (Int64.ofInt value.val)
      else
        .float (Decimal.Scaled.toDouble ⟨false, value.val.toNat, 0⟩)
  | .double negative magnitude => .float (.finite negative magnitude)

/-- Read a literal, the argument of an operator. -/
def ofJson (operator : Operator) : Json.Value → Except FilterError Literal
  | .boolean value => .ok (.boolean value)
  | .number value => .ok (ofNumber value)
  | .string text => .ok (.string text)
  | other => .error (.invalidArgument operator (.notAScalar other))

def toJson : Literal → Json.Value
  | .boolean value => .boolean value
  | .integer value => .number (.whole (Json.WholeNumber.ofInt64 value))
  | .float (.finite negative magnitude) => .number (.double negative magnitude)
  | .float _ => .null
  | .string text => .string text
  | .inet network => .string network.toText

end Literal

namespace Leaf

def toJson : Leaf → Json.Value
  | .equals literal => literal.toJson
  | .regexp pattern => .object [(Operator.regexp.name, .string pattern)]
  | .empty => .object [(Operator.empty.name, .null)]
  | .comparison relation literal =>
      .object [((Operator.comparison relation).name, literal.toJson)]
  | .containment relation literal =>
      .object [((Operator.containment relation).name, literal.toJson)]

end Leaf

namespace Filter

mutual

def toJson : Filter → Json.Value
  | .leaf single => single.toJson
  | .not inner => .object [(Operator.not.name, inner.toJson)]
  | .all children => .object [(Operator.all.name, .array (listToJson children))]
  | .any children => .object [(Operator.any.name, .array (listToJson children))]

def listToJson : List Filter → List Json.Value
  | [] => []
  | child :: rest => child.toJson :: listToJson rest

end

mutual

def ofJson : Json.Value → Except FilterError Filter
  | .object [(name, argument)] =>
      match Operator.ofName? name with
      | none => .error (.unknownFilter name)
      | some .not => (ofJson argument).map .not
      | some .all => (listOfJson .all argument).map .all
      | some .any => (listOfJson .any argument).map .any
      | some .regexp =>
          match argument with
          | .string pattern => .ok (.leaf (.regexp pattern))
          | other => .error (.invalidArgument .regexp (.notAPattern other))
      | some .empty =>
          match argument with
          | .null => .ok (.leaf .empty)
          | _ => .error (.invalidArgument .empty .notEmpty)
      | some (.comparison relation) =>
          (Literal.ofJson (.comparison relation) argument).map fun literal =>
            .leaf (.comparison relation literal)
      | some (.containment relation) =>
          (Literal.ofJson (.containment relation) argument).map fun literal =>
            .leaf (.containment relation literal)
      | some .equals => (Literal.ofJson .equals argument).map equals
  | .object members => .error (.malformedObject members.length)
  | .array _ => .error (.invalidArgument .equals .bareList)
  | .null => .error (.invalidArgument .equals .bareNull)
  | scalar => (Literal.ofJson .equals scalar).map equals

def listOfJson (operator : Operator) :
    Json.Value → Except FilterError (List Filter)
  | .array items => itemsOfJson items
  | other => .error (.invalidArgument operator (.notAList other))

/-- Read filters one after the other, up to the first that is none. -/
def itemsOfJson : List Json.Value → Except FilterError (List Filter)
  | [] => .ok []
  | item :: rest => do
      let filter ← ofJson item
      let filters ← itemsOfJson rest
      return filter :: filters

end

def ofText (text : String) : Except FilterError Filter :=
  match Json.Value.ofText? text with
  | some value => ofJson value
  | none => .error .malformedText

end Filter

/-- Attributes with a filter for each. -/
abbrev Query := List (AttributeId × Filter)

def Query.ofMembers : List (String × Json.Value) → Except FilterError Query
  | [] => .ok []
  | (id, value) :: rest => do
      let filter ← Filter.ofJson value
      let filters ← Query.ofMembers rest
      return (id, filter) :: filters

/-- Read a query, an object of attribute identifiers and filters. The filters
come in ascending order of the identifiers. -/
def Query.ofText (text : String) : Except FilterError Query :=
  match Json.Value.ofText? text with
  | some (.object members) => Query.ofMembers members
  | some _ => .error .malformedQuery
  | none => .error .malformedText

end AttributeQuery
