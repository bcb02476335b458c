import AttributeQuery.Filter.Exchange
import AttributeQuery.Schema.Basic

/-!
# Hostnames

Links are stored as server ids, and filters name servers by hostname. The
hostnames of a query are collected and looked up before it is compiled.
-/

namespace AttributeQuery

/-- The server ids of some hostnames, in ascending order of the hostnames. -/
structure HostnameIds where
  entries : List (String × Int64) := []
  deriving DecidableEq

namespace HostnameIds

def insert (ids : HostnameIds) (hostname : String) (id : Int64) : HostnameIds :=
  ⟨Sorted.insertEntry hostname id ids.entries⟩

/-- The ids of the given hostnames; a hostname given again gets the last id. -/
def ofList (entries : List (String × Int64)) : HostnameIds :=
  ⟨Sorted.ofEntries entries⟩

def get? (ids : HostnameIds) (hostname : String) : Option Int64 :=
  (ids.entries.find? (·.1 = hostname)).map (·.2)

def size (ids : HostnameIds) : Nat :=
  ids.entries.length

def isEmpty (ids : HostnameIds) : Bool :=
  ids.entries.isEmpty

/-- The ids of those of some hostnames that have one. -/
def lookup (ids : HostnameIds) (hostnames : List String) : HostnameIds :=
  ofList (hostnames.filterMap fun hostname =>
    (ids.get? hostname).map (hostname, ·))

end HostnameIds

/-- The hostname a leaf compares a link with. -/
def Leaf.hostname? : Leaf → Option String
  | .equals (.string hostname) => some hostname
  | _ => none

def Query.allHostnames (schema : Schema) :
    Query → Except SchemaError (List String)
  | [] => .ok []
  | (id, filter) :: rest => do
      let attr ← schema.requireAttribute id
      let later ← Query.allHostnames schema rest
      return if attr.isLink then
          filter.leaves.filterMap Leaf.hostname? ++ later
        else later

/-- The distinct hostnames that the filters of a query compare links with, in
ascending order. -/
def Query.hostnames (schema : Schema) (query : Query) :
    Except SchemaError (List String) :=
  (Query.allHostnames schema query).map Sorted.distinct

end AttributeQuery
