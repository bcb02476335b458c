import AttributeQuery.Toml.Value

/-!
# TOML tables under construction

A table grows by assignments and by headers. What may still be added to a table
depends on how it came to be: a table with a header of its own, or an inline
one, is complete; one that only lies on the path of another header may get its
own header once; one made by a dotted key may be extended by dotted keys.
-/

namespace AttributeQuery.Toml

/-- How a table came to be. -/
inductive Origin where
  /-- It has a header of its own. -/
  | headed
  /-- It lies on the path of a header. -/
  | implied
  /-- It lies on the path of a dotted key. -/
  | dotted
  deriving BEq, DecidableEq, Repr

/-- What a key of a growing table holds. -/
inductive Node where
  | value (value : Value)
  | table (origin : Origin) (entries : List (String × Node))
  /-- The elements of an array of tables, last one first. -/
  | tables (elements : List (List (String × Node)))

abbrev Entries := List (String × Node)

namespace Entries

def get? (entries : Entries) (key : String) : Option Node :=
  (entries.find? (·.1 = key)).map (·.2)

/-- Let a key hold something, in place of what it held. -/
def put (entries : Entries) (key : String) (node : Node) : Entries :=
  entries.filter (·.1 ≠ key) ++ [(key, node)]

/-- Assign a value to a path of keys. The last table on the way has to be the
table of the assignment itself or one made by dotted keys, and no table on the
way may have a header of its own. -/
def assign (value : Value) : List String → Entries → Option Entries
  | [], _ => none
  | [key], entries =>
      match entries.get? key with
      | none => some (entries.put key (.value value))
      | some _ => none
  | key :: next :: rest, entries =>
      match entries.get? key with
      | none => do
          let inner ← assign value (next :: rest) []
          return entries.put key (.table .dotted inner)
      | some (.table .dotted inner) => do
          let inner ← assign value (next :: rest) inner
          return entries.put key (.table .dotted inner)
      | some (.table .implied inner) =>
          if rest.isEmpty then none
          else do
            let inner ← assign value (next :: rest) inner
            return entries.put key (.table .implied inner)
      | some (.tables (last :: earlier)) =>
          if rest.isEmpty then none
          else do
            let last ← assign value (next :: rest) last
            return entries.put key (.tables (last :: earlier))
      | some _ => none

/-- Change the table at a path of header keys, making the tables on the way
where they are missing. An array of tables stands for its last element. -/
def descend (change : Entries → Option Entries) :
    List String → Entries → Option Entries
  | [], entries => change entries
  | key :: rest, entries =>
      match entries.get? key with
      | none => do
          let inner ← descend change rest []
          return entries.put key (.table .implied inner)
      | some (.table origin inner) => do
          let inner ← descend change rest inner
          return entries.put key (.table origin inner)
      | some (.tables (last :: earlier)) => do
          let last ← descend change rest last
          return entries.put key (.tables (last :: earlier))
      | some _ => none

abbrev Assignment := List String × Value

def assignAll (assignments : List Assignment) (entries : Entries) :
    Option Entries :=
  assignments.foldlM
    (fun entries assignment => assign assignment.2 assignment.1 entries) entries

/-- Give a key a table with a header of its own. A table that so far only lay
on the path of other headers keeps what it holds. -/
def addTable (key : String) (body : List Assignment) (entries : Entries) :
    Option Entries :=
  match entries.get? key with
  | none => do return entries.put key (.table .headed (← assignAll body []))
  | some (.table .implied inner) => do
      return entries.put key (.table .headed (← assignAll body inner))
  | some _ => none

def addElement (key : String) (body : List Assignment) (entries : Entries) :
    Option Entries :=
  match entries.get? key with
  | none => do return entries.put key (.tables [← assignAll body []])
  | some (.tables elements) => do
      return entries.put key (.tables ((← assignAll body []) :: elements))
  | some _ => none

end Entries

mutual

def Node.toValue : Node → Value
  | .value closed => closed
  | .table _ entries => .table (Node.toEntries entries)
  | .tables elements => .array (Node.toTables elements).reverse

def Node.toEntries : List (String × Node) → List (String × Value)
  | [] => []
  | (key, node) :: rest => (key, node.toValue) :: Node.toEntries rest

def Node.toTables : List (List (String × Node)) → List Value
  | [] => []
  | entries :: rest => .table (Node.toEntries entries) :: Node.toTables rest

end

/-- The value of an inline table with the given assignments. -/
def Value.ofAssignments? (assignments : List Entries.Assignment) :
    Option Value :=
  (Entries.assignAll assignments []).map fun entries =>
    .table (Node.toEntries entries)

end AttributeQuery.Toml
