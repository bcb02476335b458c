/-!
# Lists in ascending order

Lists kept in ascending order of a text key. Texts are compared character by
character by code point, which is also the order of their UTF-8 bytes.
-/

namespace AttributeQuery.Sorted

def insertBy {α : Type} (key : α → String) (value : α) : List α → List α
  | [] => [value]
  | head :: rest =>
      if key head < key value then head :: insertBy key value rest
      else value :: head :: rest

def insertDistinct (text : String) : List String → List String
  | [] => [text]
  | head :: rest =>
      if head < text then head :: insertDistinct text rest
      else if head = text then head :: rest
      else text :: head :: rest

/-- The distinct texts of a list in ascending order. -/
def distinct (texts : List String) : List String :=
  texts.foldr insertDistinct []

def insertEntry {α : Type} (key : String) (value : α) :
    List (String × α) → List (String × α)
  | [] => [(key, value)]
  | head :: rest =>
      if head.1 < key then head :: insertEntry key value rest
      else if head.1 = key then (key, value) :: rest
      else (key, value) :: head :: rest

/-- The entries in ascending order of their keys. Of entries with one key the
last one given stays. -/
def ofEntries {α : Type} (entries : List (String × α)) : List (String × α) :=
  entries.foldl (fun sorted entry => insertEntry entry.1 entry.2 sorted) []

end AttributeQuery.Sorted
