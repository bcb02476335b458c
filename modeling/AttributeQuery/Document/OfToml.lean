import AttributeQuery.Document.Basic
import AttributeQuery.Toml.Document

/-!
# TOML texts as documents

A moment stands for a record with one field of its own, so it is neither a text
nor a list. Lists are open.
-/

namespace AttributeQuery.Document

mutual

def ofTomlValue : Toml.Value → Document
  | .string value => .text value
  | .integer value => .integer value
  | .float _ => .other
  | .boolean value => .flag value
  | .moment value => .fields [("moment", .text value)]
  | .array items => .list true (ofTomlItems items)
  | .table entries => .fields (ofTomlEntries entries)

def ofTomlItems : List Toml.Value → List Document
  | [] => []
  | item :: rest => ofTomlValue item :: ofTomlItems rest

def ofTomlEntries : List (String × Toml.Value) → List (String × Document)
  | [] => []
  | (key, value) :: rest => (key, ofTomlValue value) :: ofTomlEntries rest

end

def ofToml? (text : String) : Option Document :=
  (Toml.document? text).map fun entries => .fields (ofTomlEntries entries)

end AttributeQuery.Document
