/-!
# Documents

What schema and settings documents are made of, whatever format they are
written in. Typed data are read from a document by functions that give nothing
when the document does not fit.

A record is written as named fields, or as a list of its fields in the order
they are declared. Fields nobody asks for are ignored, whatever they hold. What
follows the fields of a record in a list is ignored in an open list and not
allowed in a closed one; which of the two a list is depends on the format.
-/

namespace AttributeQuery

inductive Document where
  /-- A value given as missing. -/
  | absent
  | flag (value : Bool)
  | integer (value : Int)
  | text (value : String)
  | list (isOpen : Bool) (items : List Document)
  | fields (entries : List (String × Document))
  /-- A value of a kind that no typed datum is read from. -/
  | other
  /-- A value that is well-formed but denotes nothing in its format. -/
  | unreadable
  deriving Repr

namespace Document

mutual

/-- Whether a document holds nothing unreadable. -/
def isReadable : Document → Bool
  | .unreadable => false
  | .list _ items => areReadable items
  | .fields entries => haveReadableValues entries
  | _ => true

def areReadable : List Document → Bool
  | [] => true
  | item :: rest => item.isReadable && areReadable rest

def haveReadableValues : List (String × Document) → Bool
  | [] => true
  | (_, value) :: rest => value.isReadable && haveReadableValues rest

end

/-- A field of a record: its name, and whether a record written as a list may
end before it. -/
structure Field where
  name : String
  isTrailing : Bool

/-- What a record gives for a field, which it may name at most once. -/
def fieldOf? (entries : List (String × Document)) (field : Field) :
    Option (Option Document) :=
  match entries.filter (·.1 = field.name) with
  | [] => some none
  | [(_, value)] => some (some value)
  | _ => none

/-- Give the items of a list to the fields of a record in order. -/
def itemsAsFields? (isOpen : Bool) :
    List Document → List Field → Option (List (Option Document))
  | [], left =>
      if left.all (·.isTrailing) then some (left.map fun _ => none) else none
  | _ :: _, [] => if isOpen then some [] else none
  | item :: items, _ :: left =>
      (itemsAsFields? isOpen items left).map (some item :: ·)

/-- What a record gives for each of its fields. -/
def record? (declared : List Field) : Document → Option (List (Option Document))
  | .fields entries => declared.mapM (fieldOf? entries)
  | .list isOpen items => itemsAsFields? isOpen items declared
  | _ => none

def text? : Document → Option String
  | .text value => some value
  | _ => none

def requiredText? : Option Document → Option String
  | some document => document.text?
  | none => none

/-- A field that is read only where it is given and not absent. -/
def optional? {α : Type} (read? : Document → Option α) :
    Option Document → Option (Option α)
  | none => some none
  | some .absent => some none
  | some document => (read? document).map some

/-- A flag that is off unless given. -/
def flag? : Option Document → Option Bool
  | none => some false
  | some (.flag value) => some value
  | some _ => none

/-- A list that is empty unless given, with each of its items read. -/
def items? {α : Type} (read? : Document → Option α) :
    Option Document → Option (List α)
  | none => some []
  | some (.list _ items) => items.mapM read?
  | some _ => none

def isEmpty : Document → Bool
  | .list _ [] => true
  | .fields [] => true
  | _ => false

/-- One of some named choices: its name, or a record that has the name as its
only field and nothing in it. -/
def choice? {α : Type} (named? : String → Option α) : Document → Option α
  | .text name => named? name
  | .fields [(name, content)] => if content.isEmpty then named? name else none
  | _ => none

end Document

end AttributeQuery
