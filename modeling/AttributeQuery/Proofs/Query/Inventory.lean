import AttributeQuery.Proofs.Schema.Construction
import AttributeQuery.Proofs.Sql.Expression
import AttributeQuery.Settings.Layout

/-!
# Inventories

The servers of a database with what is stored about them, apart from the tables
that hold it. An inventory and a schema determine which servers hold an
attribute for another server: the server itself, or those that a link leads to.
-/

namespace AttributeQuery

open Sql

/-- A server, with the number that stands for it in links. -/
structure Server (Value : Type) where
  id : Int
  servertype : ServertypeId
  network : Option Value

/-- What is stored of an attribute for a server. -/
structure Entry (Stored : Type) where
  owner : Int
  attributeId : AttributeId
  value : Stored

/-- What is stored of a scalar attribute. A boolean one has no value: that there
is an entry for a server says that it is true. -/
def ValueDomain.Stored (Value : Type) : ValueDomain → Type
  | .boolean => Unit
  | _ => Value

/-- The value that is stored of a scalar attribute, where it has one. -/
def ValueDomain.value? {Value : Type} :
    (domain : ValueDomain) → domain.Stored Value → Option Value
  | .boolean, _ => none
  | .number, value | .string, value | .inet, value | .macaddr, value
  | .date, value | .datetime, value => some value

/-- Servers, the links between them, and the entries of the scalar attributes by
their domains. -/
structure Inventory (Value : Type) where
  servers : List (Server Value)
  relations : List (Entry Int)
  values : (domain : ValueDomain) → List (Entry (domain.Stored Value))

/-- The servers of a servertype carry an attribute themselves. -/
def Schema.BindsDirectly (schema : Schema) (servertype : ServertypeId)
    (id : AttributeId) : Prop :=
  ∃ binding, schema.binding? servertype id = some binding ∧
    binding.relatedVia = none

namespace Inventory

variable {Value : Type}

/-- The server with an id, if there is one, carries an attribute itself. -/
def CarriesDirectly (schema : Schema) (inventory : Inventory Value)
    (id : AttributeId) (owner : Int) : Prop :=
  ∀ server ∈ inventory.servers, server.id = owner →
    schema.BindsDirectly server.servertype id

/-- Only servers that carry an attribute themselves have entries of it. -/
structure IsDirect (schema : Schema) (inventory : Inventory Value) : Prop where
  relations : ∀ entry ∈ inventory.relations,
    inventory.CarriesDirectly schema entry.attributeId entry.owner
  values : ∀ domain, ∀ entry ∈ inventory.values domain,
    inventory.CarriesDirectly schema entry.attributeId entry.owner

/-! ## Holders -/

section Holders

variable (schema : Schema) (contains : Value → Value → Prop)
  (inventory : Inventory Value) (server : Server Value)

mutual

/-- The servers that hold an attribute for a server: itself where the attribute
is bound directly, and those that are linked to it where a link is between. -/
inductive Holds : AttributeId → Int → Prop where
  | direct {id : AttributeId} {binding : Binding}
      (bound : schema.binding? server.servertype id = some binding)
      (isDirect : binding.relatedVia = none) : Holds id server.id
  | related {id via : AttributeId} {binding : Binding} {holder : Int}
      (bound : schema.binding? server.servertype id = some binding)
      (isRelated : binding.relatedVia = some via) (linked : Linked via holder) :
      Holds id holder

/-- The servers that a link attribute leads to from a server. -/
inductive Linked : AttributeId → Int → Prop where
  | hostname {attr : Attribute} {target : Option ServertypeId}
      {entry : Entry Int}
      (declared : schema.findAttribute? entry.attributeId = some attr)
      (type : attr.type = .hostname target)
      (isStored : entry ∈ inventory.relations)
      (held : Holds entry.attributeId entry.owner) :
      Linked entry.attributeId entry.value
  | supernet {via : AttributeId} {attr : Attribute} {other : Server Value}
      {outer inner : Value} (declared : schema.findAttribute? via = some attr)
      (type : attr.type = .supernet other.servertype)
      (isServer : other ∈ inventory.servers)
      (hasOuter : other.network = some outer)
      (hasInner : server.network = some inner)
      (contained : contains outer inner) : Linked via other.id
  | reverseHostname {via : AttributeId} {attr : Attribute} {entry : Entry Int}
      (declared : schema.findAttribute? via = some attr)
      (type : attr.type = .reverseHostname entry.attributeId)
      (isStored : entry ∈ inventory.relations)
      (isLinked : entry.value = server.id) :
      Linked via entry.owner

end

/-- The servers that are reached through a link, or directly. -/
def Reaches : Option AttributeId → Int → Prop
  | none, holder => server.id = holder
  | some via, holder => Linked schema contains inventory server via holder

/-- The servers that a link attribute of a type leads to. -/
def LeadsTo (via : AttributeId) : AttributeType → Int → Prop
  | .scalar _, _ => False
  | .hostname _, holder =>
      ∃ entry ∈ inventory.relations, entry.attributeId = via ∧
        Holds schema contains inventory server via entry.owner ∧
        entry.value = holder
  | .supernet target, holder =>
      ∃ other ∈ inventory.servers, other.servertype = target ∧
        (∃ outer inner, other.network = some outer ∧
          server.network = some inner ∧
          contains outer inner) ∧ other.id = holder
  | .reverseHostname reversed, holder =>
      ∃ entry ∈ inventory.relations, entry.attributeId = reversed ∧
        entry.value = server.id ∧
        entry.owner = holder

variable {schema contains inventory server} {id via : AttributeId}
  {holder : Int}

/-- Which servers hold an attribute depends on the binding to the servertype. -/
theorem holds_iff : Holds schema contains inventory server id holder ↔
    ∃ binding, schema.binding? server.servertype id = some binding ∧
      Reaches schema contains inventory server binding.relatedVia holder := by
  constructor
  · intro held
    cases held with
    | direct bound isDirect => exact ⟨_, bound, by rw [isDirect]; rfl⟩
    | related bound isRelated linked =>
        exact ⟨_, bound, by rw [isRelated]; exact linked⟩
  · rintro ⟨binding, bound, reached⟩
    cases relatedVia : binding.relatedVia with
    | none =>
        rw [relatedVia] at reached
        obtain rfl : server.id = holder := reached
        exact .direct bound relatedVia
    | some via =>
        exact .related bound relatedVia (by rwa [relatedVia] at reached)

/-- A link attribute leads to other servers by its type. -/
theorem linked_iff {attr : Attribute}
    (declared : schema.findAttribute? via = some attr) :
    Linked schema contains inventory server via holder ↔
      LeadsTo schema contains inventory server via attr.type holder := by
  constructor
  · intro linked
    cases linked with
    | hostname declaredHere type isStored held =>
        obtain rfl := Option.some.inj (declared.symm.trans declaredHere)
        rw [type]
        exact ⟨_, isStored, rfl, held, rfl⟩
    | supernet declaredHere type isServer hasOuter hasInner contained =>
        obtain rfl := Option.some.inj (declared.symm.trans declaredHere)
        rw [type]
        exact ⟨_, isServer, rfl, ⟨_, _, hasOuter, hasInner, contained⟩, rfl⟩
    | reverseHostname declaredHere type isStored isLinked =>
        obtain rfl := Option.some.inj (declared.symm.trans declaredHere)
        rw [type]
        exact ⟨_, isStored, rfl, isLinked, rfl⟩
  · intro leads
    cases type : attr.type with
    | scalar domain =>
        rw [type] at leads
        exact leads.elim
    | hostname target =>
        rw [type] at leads
        obtain ⟨entry, isStored, rfl, held, rfl⟩ := leads
        exact .hostname declared type isStored held
    | supernet target =>
        rw [type] at leads
        obtain ⟨other, isServer, rfl,
          ⟨outer, inner, hasOuter, hasInner, contained⟩, rfl⟩ := leads
        exact .supernet declared type isServer hasOuter hasInner contained
    | reverseHostname reversed =>
        rw [type] at leads
        obtain ⟨entry, isStored, rfl, isLinked, rfl⟩ := leads
        exact .reverseHostname declared type isStored isLinked

end Holders

end Inventory

/-- A database finds equal texts and numbers equal, and knows which networks
contain others. -/
structure Sql.Database.Compares {Value : Type} (database : Database Value)
    (contains : Value → Value → Prop) : Prop where
  text : ∀ first second,
    database.compare "=" (database.text first) (database.text second) = .yes ↔
      first = second
  number : ∀ first second,
    database.compare "=" (database.number first) (database.number second) =
      .yes ↔ first = second
  network : ∀ outer inner, database.compare ">>=" outer inner = .yes ↔
    contains outer inner

/-! ## Tables -/

/-- A row of the server table is that of a server. -/
structure Server.IsRow {Value : Type} (layout : Layout)
    (database : Database Value) (server : Server Value) (row : Row Value) :
    Prop where
  id : row (layout.name .serverIdColumn) = some (database.number server.id)
  servertype : row (layout.name .servertypeColumn) =
    some (database.text server.servertype)
  network : row (layout.name .networkColumn) = server.network

/-- A row of a side table is that of an entry. It has the value of the entry,
where there is one: tables of boolean attributes have no column for it. -/
structure Entry.IsRow {Value Stored : Type} (database : Database Value)
    (value? : Stored → Option Value) (entry : Entry Stored) (row : Row Value) :
    Prop where
  owner : row "server_id" = some (database.number entry.owner)
  attributeId : row "attribute_id" = some (database.text entry.attributeId)
  value : ∀ value, value? entry.value = some value → row "value" = some value

/-- The value of an entry may be said instead of how it is stored. -/
theorem Entry.IsRow.rendered {Value Stored : Type} {database : Database Value}
    {value? : Stored → Option Value} {entry : Entry Stored} {row : Row Value}
    (isRow : entry.IsRow database value? row) :
    Entry.IsRow database id { entry with value := value? entry.value } row :=
  ⟨isRow.owner, isRow.attributeId, isRow.value⟩

namespace Inventory

variable {Value : Type}

/-- A link is stored with the id of the server that it names. -/
def link? (database : Database Value) (target : Int) : Option Value :=
  some (database.number target)

/-- The tables of a database hold an inventory. -/
structure IsStored (layout : Layout) (database : Database Value)
    (inventory : Inventory Value) :
    Prop where
  servers : List.Forall₂ (Server.IsRow layout database) inventory.servers
    (database.rows (layout.name .serverTable))
  relations : List.Forall₂ (Entry.IsRow database (link? database))
    inventory.relations (database.rows (layout.name .relationTable))
  values : ∀ domain,
    List.Forall₂ (Entry.IsRow database domain.value?) (inventory.values domain)
      (database.rows (layout.name (.sideTable domain)))

/-- What is stored for the attributes of a type, with the values of a database.
Only scalars and links that name a server are stored. -/
def entries (database : Database Value) (inventory : Inventory Value) :
    AttributeType → List (Entry (Option Value))
  | .scalar domain => (inventory.values domain).map fun entry =>
      { entry with value := domain.value? entry.value }
  | .hostname _ => inventory.relations.map fun entry =>
      { entry with value := link? database entry.value }
  | .supernet _ | .reverseHostname _ => []

end Inventory

/-- The fields that name tables. -/
def LayoutField.tables : List LayoutField :=
  [.serverTable, .relationTable] ++ ValueDomain.all.map .sideTable

/-- The fields that name columns of the server table which conditions
compare. -/
def LayoutField.serverColumns : List LayoutField :=
  [.serverIdColumn, .servertypeColumn, .networkColumn]

/-- Tables have distinct names, and so have the columns of the server table. -/
structure Layout.IsDistinct (layout : Layout) : Prop where
  tables : (LayoutField.tables.map layout.name).Nodup
  columns : (LayoutField.serverColumns.map layout.name).Nodup

section Rows

variable {Value : Type} (layout : Layout) (database : Database Value)

/-- The row of a server. -/
def Server.row (server : Server Value) : Row Value := fun column =>
  if column = layout.name .serverIdColumn then some (database.number server.id)
  else if column = layout.name .servertypeColumn then some
    (database.text server.servertype)
  else if column = layout.name .networkColumn then server.network
  else none

/-- The row of an entry. -/
def Entry.row {Stored : Type} (value? : Stored → Option Value)
    (entry : Entry Stored) : Row Value
  | "server_id" => some (database.number entry.owner)
  | "attribute_id" => some (database.text entry.attributeId)
  | "value" => value? entry.value
  | _ => none

/-- The tables of an inventory. -/
def Inventory.rows (inventory : Inventory Value) (table : String) :
    List (Row Value) :=
  match LayoutField.tables.find? (fun field => layout.name field = table) with
  | some .serverTable => inventory.servers.map (Server.row layout database)
  | some .relationTable =>
      inventory.relations.map (Entry.row database (link? database))
  | some field =>
      match ValueDomain.all.find? (fun domain => .sideTable domain = field) with
      | some domain =>
          (inventory.values domain).map (Entry.row database domain.value?)
      | none => []
  | none => []

/-- A database with the tables of an inventory. -/
def Inventory.asDatabase (inventory : Inventory Value) : Database Value :=
  { database with rows := inventory.rows layout database }

variable {layout}

/-- The name of a table leads to the field that names it. -/
theorem Layout.IsDistinct.find?_table (distinct : layout.IsDistinct)
    {field : LayoutField} (isTable : field ∈ LayoutField.tables) :
    LayoutField.tables.find?
      (fun other => layout.name other = layout.name field) = some field := by
  cases found : LayoutField.tables.find?
      (fun other => layout.name other = layout.name field) with
  | none => simpa using List.find?_eq_none.mp found field isTable
  | some other =>
      have sameName : layout.name other = layout.name field := by
        simpa using List.find?_some found
      rw [List.inj_on_of_nodup_map distinct.tables
        (List.mem_of_find?_eq_some found) isTable sameName]

variable (inventory : Inventory Value)

theorem Server.isRow_row (distinct : layout.IsDistinct)
    (server : Server Value) :
    server.IsRow layout (inventory.asDatabase layout database)
      (server.row layout database) := by
  have differs := distinct.columns
  simp only [LayoutField.serverColumns, List.map_cons, List.map_nil,
    List.nodup_cons, List.mem_cons, List.not_mem_nil, or_false,
    not_or] at differs
  obtain ⟨⟨servertype, network⟩, notNetwork, -⟩ := differs
  exact ⟨if_pos rfl, by simp [row, Ne.symm servertype, Inventory.asDatabase],
    by simp [row, Ne.symm network, Ne.symm notNetwork]⟩

theorem Inventory.rows_asDatabase (table : String) :
    (inventory.asDatabase layout database).rows table =
      inventory.rows layout database table := rfl

/-- With distinct names there is a database for every inventory. -/
theorem Inventory.isStored_asDatabase (distinct : layout.IsDistinct) :
    inventory.IsStored layout (inventory.asDatabase layout database) where
  servers := by
    have rows : (inventory.asDatabase layout database).rows
        (layout.name .serverTable) =
        inventory.servers.map (Server.row layout database) := by
      rw [rows_asDatabase, Inventory.rows,
        distinct.find?_table (by simp [LayoutField.tables])]
    rw [rows, List.forall₂_map_right_iff]
    exact List.forall₂_same.mpr fun server _ =>
      server.isRow_row database inventory distinct
  relations := by
    have rows : (inventory.asDatabase layout database).rows
        (layout.name .relationTable) =
        inventory.relations.map (Entry.row database (link? database)) := by
      rw [rows_asDatabase, Inventory.rows,
        distinct.find?_table (by simp [LayoutField.tables])]
    rw [rows, List.forall₂_map_right_iff]
    exact List.forall₂_same.mpr fun entry _ =>
      ⟨rfl, rfl, fun _ isValue => isValue⟩
  values domain := by
    have isTable : .sideTable domain ∈ LayoutField.tables := by
      cases domain <;> simp [LayoutField.tables, ValueDomain.all]
    have rows : (inventory.asDatabase layout database).rows
        (layout.name (.sideTable domain)) =
        (inventory.values domain).map (Entry.row database domain.value?) := by
      rw [rows_asDatabase, Inventory.rows, distinct.find?_table isTable]
      cases domain <;> rfl
    rw [rows, List.forall₂_map_right_iff]
    exact List.forall₂_same.mpr fun entry _ =>
      ⟨rfl, rfl, fun _ isValue => isValue⟩

end Rows

end AttributeQuery
