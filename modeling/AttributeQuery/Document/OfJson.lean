import AttributeQuery.Document.Basic
import AttributeQuery.Json.Reading

/-!
# JSON texts as documents

Strings that are no text, numbers past every finite double, objects with an
unreadable key and containers nested too deep become unreadable documents. They
spoil a document only where they are read. Lists are closed.
-/

namespace AttributeQuery.Document

mutual

/-- The document of a JSON outline, with `depth` more containers allowed. -/
def ofOutline (depth : Nat) : Json.Outline → Document
  | .null => .absent
  | .boolean value => .flag value
  | .number numeral => if numeral.number?.isSome then .other else .unreadable
  | .string items =>
      match Json.decodeString? items with
      | some decoded => .text decoded
      | none => .unreadable
  | .array items =>
      match depth with
      | 0 => .unreadable
      | depth + 1 => .list false (ofItems depth items)
  | .object members =>
      match depth with
      | 0 => .unreadable
      | depth + 1 =>
          match ofMembers depth members with
          | some entries => .fields entries
          | none => .unreadable

def ofItems (depth : Nat) : List Json.Outline → List Document
  | [] => []
  | item :: rest => ofOutline depth item :: ofItems depth rest

/-- The fields of an object, when all its keys are readable. -/
def ofMembers (depth : Nat) :
    List (List Json.StringItem × Json.Outline) →
    Option (List (String × Document))
  | [] => some []
  | (key, member) :: rest => do
      let name ← Json.decodeString? key
      let entries ← ofMembers depth rest
      return (name, ofOutline depth member) :: entries

end

def ofJson? (text : String) : Option Document :=
  (Json.Outline.ofText? text).map (ofOutline Json.maximalDepth)

end AttributeQuery.Document
