import AttributeQuery.Document.OfJson
import AttributeQuery.Document.OfToml
import AttributeQuery.Schema.Basic

/-!
# Schema documents

A schema document lists servertypes, each with the attributes bound to it, and
attributes. It is written in JSON or TOML. Its attributes are converted first,
in document order; what it declares then has to build a schema.
-/

namespace AttributeQuery

open Document

/-- A binding as written below a servertype. -/
structure BindingEntry where
  attributeId : AttributeId
  relatedVia : Option AttributeId
  deriving BEq, DecidableEq, Repr

structure ServertypeEntry where
  id : ServertypeId
  bindings : List BindingEntry
  deriving BEq, DecidableEq, Repr

structure AttributeEntry where
  id : AttributeId
  typeName : String
  special : Option String := none
  isMulti : Bool := false
  target : Option ServertypeId := none
  reversed : Option AttributeId := none
  deriving BEq, DecidableEq, Repr

/-- Read a binding: the identifier of an attribute, or a record with named
fields. A binding is read as a whole, with the fields nobody asks for. -/
def BindingEntry.ofDocument? (document : Document) : Option BindingEntry := do
  if !document.isReadable then none
  match document with
  | .text attributeId => return ⟨attributeId, none⟩
  | .fields entries =>
      let attributeId ← requiredText? (← fieldOf? entries ⟨"attribute", false⟩)
      let relatedVia ← optional? text?
        (← fieldOf? entries ⟨"related_via", true⟩)
      return ⟨attributeId, relatedVia⟩
  | _ => none

def ServertypeEntry.ofDocument? (document : Document) :
    Option ServertypeEntry := do
  match ← document.record? [⟨"id", false⟩, ⟨"attributes", true⟩] with
  | [id, bindings] =>
      return ⟨← requiredText? id, ← items? BindingEntry.ofDocument? bindings⟩
  | _ => none

def AttributeEntry.ofDocument? (document : Document) :
    Option AttributeEntry := do
  let fields : List Field :=
    [⟨"id", false⟩, ⟨"type", false⟩, ⟨"special", true⟩, ⟨"multi", true⟩,
      ⟨"target_servertype", true⟩, ⟨"reversed_attribute", true⟩]
  match ← document.record? fields with
  | [id, typeName, special, isMulti, target, reversed] =>
      return {
        id := ← requiredText? id
        typeName := ← requiredText? typeName
        special := ← optional? text? special
        isMulti := ← flag? isMulti
        target := ← optional? text? target
        reversed := ← optional? text? reversed }
  | _ => none

/-- The type an attribute is written with. The types that lead to other servers
need to say where. -/
def AttributeEntry.type (entry : AttributeEntry) :
    Except SchemaError AttributeType :=
  match ValueDomain.ofName? entry.typeName with
  | some domain => .ok (.scalar domain)
  | none =>
      if entry.typeName = "hostname" then .ok (.hostname entry.target)
      else if entry.typeName = "reverse_hostname" then
        match entry.reversed with
        | some reversed => .ok (.reverseHostname reversed)
        | none => .error (.missingField entry.id .reversedAttribute)
      else if entry.typeName = "supernet" then
        match entry.target with
        | some target => .ok (.supernet target)
        | none => .error (.missingField entry.id .targetServertype)
      else .error (.unknownType entry.typeName)

def AttributeEntry.toAttribute (entry : AttributeEntry) :
    Except SchemaError Attribute := do
  return {
    id := entry.id
    type := ← entry.type
    special := entry.special.map SpecialField.mk
    isMulti := entry.isMulti }

/-- What a servertype entry declares. -/
def ServertypeEntry.declarations (entry : ServertypeEntry) : List Declaration :=
  .servertype entry.id :: entry.bindings.map fun binding =>
    .binding ⟨entry.id, binding.attributeId, binding.relatedVia⟩

/-- The declarations of a schema document, or what makes it malformed. -/
def Schema.entries? (document : Document) :
    Option (List ServertypeEntry × List AttributeEntry) := do
  match ← document.record? [⟨"servertypes", true⟩, ⟨"attributes", true⟩] with
  | [servertypes, attributes] =>
      return (← items? ServertypeEntry.ofDocument? servertypes,
        ← items? AttributeEntry.ofDocument? attributes)
  | _ => none

def Schema.ofDocument (format : Format) (document? : Option Document) :
    Except SchemaError Schema := do
  match document?.bind Schema.entries? with
  | none => .error (.malformed format)
  | some (servertypes, attributes) =>
      let attributes ← attributes.mapM AttributeEntry.toAttribute
      Schema.build
        (attributes.map Declaration.attr
          ++ servertypes.flatMap ServertypeEntry.declarations)

def Schema.ofJson (text : String) : Except SchemaError Schema :=
  Schema.ofDocument .json (Document.ofJson? text)

def Schema.ofToml (text : String) : Except SchemaError Schema :=
  Schema.ofDocument .toml (Document.ofToml? text)

end AttributeQuery
