import AttributeQuery.Schema.Error
import AttributeQuery.Sorted

/-!
# Schemas

A schema holds the servertypes, the attributes and the bindings between them.
It is built from declarations, and only if these are consistent: identifiers
are distinct, every reference names something declared, and no attribute is
bound twice to one servertype.
-/

namespace AttributeQuery

/-- One statement about a schema. -/
inductive Declaration where
  | servertype (id : ServertypeId)
  | attr (attr : Attribute)
  | binding (binding : Binding)
  deriving BEq, DecidableEq, Repr

namespace Declaration

def servertypes (declarations : List Declaration) : List ServertypeId :=
  declarations.filterMap fun
    | .servertype declared => some declared
    | _ => none

def attributes (declarations : List Declaration) : List Attribute :=
  declarations.filterMap fun
    | .attr declared => some declared
    | _ => none

def bindings (declarations : List Declaration) : List Binding :=
  declarations.filterMap fun
    | .binding declared => some declared
    | _ => none

end Declaration

/-- A schema. Servertypes and attributes are in ascending order of their
identifiers, bindings in ascending order of their servertypes. -/
structure Schema where
  servertypes : List ServertypeId := []
  attributes : List Attribute := []
  allBindings : List Binding := []
  deriving BEq, DecidableEq, Repr

namespace Schema

def hasServertype (schema : Schema) (id : ServertypeId) : Bool :=
  schema.servertypes.contains id

def findAttribute? (schema : Schema) (id : AttributeId) : Option Attribute :=
  schema.attributes.find? (·.id = id)

/-- The attribute with an identifier, which has to be declared. -/
def requireAttribute (schema : Schema) (id : AttributeId) :
    Except SchemaError Attribute :=
  match schema.findAttribute? id with
  | some attr => .ok attr
  | none => .error (.unknownAttribute id)

/-- All bindings of an attribute, in ascending order of their servertypes. -/
def bindings (schema : Schema) (id : AttributeId) : List Binding :=
  schema.allBindings.filter (·.attributeId = id)

def binding? (schema : Schema) (servertype : ServertypeId) (id : AttributeId) :
    Option Binding :=
  (schema.bindings id).find? (·.servertype = servertype)

def requireServertype (schema : Schema) (id : ServertypeId) :
    Except SchemaError Unit :=
  if schema.hasServertype id then .ok () else .error (.unknownServertype id)

/-- Check the references of an attribute type. -/
def checkType (schema : Schema) (id : AttributeId) :
    AttributeType → Except SchemaError Unit
  | .scalar _ => .ok ()
  | .hostname none => .ok ()
  | .hostname (some target) => schema.requireServertype target
  | .supernet target => schema.requireServertype target
  | .reverseHostname reversed => do
      let attr ← schema.requireAttribute reversed
      if attr.type.isHostname then .ok ()
      else .error (.invalidReverse id reversed)

/-- Check an attribute: only scalars are held by columns of the server table,
and what the type refers to has to be declared. -/
def checkAttribute (schema : Schema) (attr : Attribute) :
    Except SchemaError Unit :=
  if attr.isSpecial && attr.isLink then .error (.invalidSpecial attr.id)
  else schema.checkType attr.id attr.type

def checkRelation (schema : Schema) (binding : Binding) (via : AttributeId) :
    Except SchemaError Unit := do
  let invalid :=
    SchemaError.invalidRelatedVia binding.servertype binding.attributeId via
  if via = binding.attributeId then .error (invalid .itself)
  else
    let attr ← schema.requireAttribute via
    if attr.isLink then .ok () else .error (invalid .notALink)

/-- Check that everything a binding names is declared, and that no other
binding of the schema is for the same attribute and servertype. -/
def checkBinding (schema : Schema) (binding : Binding) :
    Except SchemaError Unit := do
  schema.requireServertype binding.servertype
  let _ ← schema.requireAttribute binding.attributeId
  match binding.relatedVia with
  | some via => schema.checkRelation binding via
  | none => pure ()
  match schema.binding? binding.servertype binding.attributeId with
  | some _ => .error (.duplicateBinding binding.servertype binding.attributeId)
  | none => .ok ()

def addServertype (schema : Schema) (id : ServertypeId) :
    Except SchemaError Schema :=
  if schema.hasServertype id then .error (.duplicateServertype id)
  else
    .ok { schema with
      servertypes := Sorted.insertBy (fun id => id) id schema.servertypes }

/-- Declare an attribute. Its references are checked once all attributes are
declared. -/
def addAttribute (schema : Schema) (attr : Attribute) :
    Except SchemaError Schema :=
  match schema.findAttribute? attr.id with
  | some _ => .error (.duplicateAttribute attr.id)
  | none =>
      .ok { schema with
        attributes :=
          Sorted.insertBy (fun attr => attr.id) attr schema.attributes }

def addBinding (schema : Schema) (binding : Binding) :
    Except SchemaError Schema := do
  schema.checkBinding binding
  return { schema with
    allBindings :=
      Sorted.insertBy (fun binding => binding.servertype) binding
        schema.allBindings }

/-- Build a schema: servertypes first, then attributes, then the references of
the attributes in ascending order of their identifiers, then bindings. The
first fault in this order is reported. -/
def build (declarations : List Declaration) : Except SchemaError Schema := do
  let schema ← (Declaration.servertypes declarations).foldlM addServertype {}
  let schema ← (Declaration.attributes declarations).foldlM addAttribute schema
  schema.attributes.forM schema.checkAttribute
  (Declaration.bindings declarations).foldlM addBinding schema

/-- What a search form needs to know about an attribute. -/
structure AttributeSummary where
  typeName : String
  isMulti : Bool
  deriving BEq, DecidableEq, Repr

def catalog (schema : Schema) : List (AttributeId × AttributeSummary) :=
  schema.attributes.map fun attr =>
    (attr.id, ⟨attr.type.name, attr.isMulti⟩)

end Schema

end AttributeQuery
