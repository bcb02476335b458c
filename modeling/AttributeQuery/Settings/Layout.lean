import AttributeQuery.Document.Basic
import AttributeQuery.Schema.Attribute
import AttributeQuery.Settings.Error
import AttributeQuery.Text.Identifier

/-!
# Layouts

A layout names the tables and columns of the server database. It has one name
for each layout field, and a layer has a name for some of them. Names stand in
statements as they are, so a valid layout has plain identifiers only.
-/

namespace AttributeQuery

/-- What a layout names. -/
inductive LayoutField where
  | serverTable
  | serverIdColumn
  | hostnameColumn
  | networkColumn
  | servertypeColumn
  | projectColumn
  /-- The side table of hostname attributes, whose values are server ids. -/
  | relationTable
  | booleanTable
  | numberTable
  | stringTable
  | inetTable
  | macaddrTable
  | dateTable
  | datetimeTable
  deriving BEq, DecidableEq, Repr

namespace LayoutField

/-- All layout fields, in the order they are declared and checked. -/
def all : List LayoutField :=
  [.serverTable, .serverIdColumn, .hostnameColumn, .networkColumn,
    .servertypeColumn, .projectColumn, .relationTable, .booleanTable,
    .numberTable, .stringTable, .inetTable, .macaddrTable, .dateTable,
    .datetimeTable]

/-- The key of a layout field in settings documents. -/
def key : LayoutField → String
  | .serverTable => "server_table"
  | .serverIdColumn => "server_id_column"
  | .hostnameColumn => "hostname_column"
  | .networkColumn => "network_column"
  | .servertypeColumn => "servertype_column"
  | .projectColumn => "project_column"
  | .relationTable => "relation_table"
  | .booleanTable => "boolean_table"
  | .numberTable => "number_table"
  | .stringTable => "string_table"
  | .inetTable => "inet_table"
  | .macaddrTable => "macaddr_table"
  | .dateTable => "date_table"
  | .datetimeTable => "datetime_table"

/-- The environment variable of a layout field, without what all variables
start with. -/
def variableName : LayoutField → String
  | .serverTable => "SERVER_TABLE"
  | .serverIdColumn => "SERVER_ID_COLUMN"
  | .hostnameColumn => "HOSTNAME_COLUMN"
  | .networkColumn => "NETWORK_COLUMN"
  | .servertypeColumn => "SERVERTYPE_COLUMN"
  | .projectColumn => "PROJECT_COLUMN"
  | .relationTable => "RELATION_TABLE"
  | .booleanTable => "BOOLEAN_TABLE"
  | .numberTable => "NUMBER_TABLE"
  | .stringTable => "STRING_TABLE"
  | .inetTable => "INET_TABLE"
  | .macaddrTable => "MACADDR_TABLE"
  | .dateTable => "DATE_TABLE"
  | .datetimeTable => "DATETIME_TABLE"

def default : LayoutField → String
  | .serverTable => "server"
  | .serverIdColumn => "server_id"
  | .hostnameColumn => "hostname"
  | .networkColumn => "intern_ip"
  | .servertypeColumn => "servertype_id"
  | .projectColumn => "project_id"
  | .relationTable => "server_relation_attribute"
  | .booleanTable => "server_boolean_attribute"
  | .numberTable => "server_number_attribute"
  | .stringTable => "server_string_attribute"
  | .inetTable => "server_inet_attribute"
  | .macaddrTable => "server_macaddr_attribute"
  | .dateTable => "server_date_attribute"
  | .datetimeTable => "server_datetime_attribute"

def sideTable : ValueDomain → LayoutField
  | .boolean => .booleanTable
  | .number => .numberTable
  | .string => .stringTable
  | .inet => .inetTable
  | .macaddr => .macaddrTable
  | .date => .dateTable
  | .datetime => .datetimeTable

end LayoutField

/-- The names of the tables and columns of the server database. -/
structure Layout where
  name : LayoutField → String := LayoutField.default

namespace Layout

/-- Check that every name is a plain identifier; the first that is not is
reported. -/
def check (layout : Layout) : Except SettingsError Unit :=
  match LayoutField.all.find?
      (fun field => !Text.Identifier.isIdentifier (layout.name field)) with
  | none => .ok ()
  | some field =>
      .error (.invalidValue ("layout." ++ field.key)
        (.notAnIdentifier (layout.name field)))

end Layout

/-- Names of which each may be unset. -/
structure LayoutLayer where
  name? : LayoutField → Option String := fun _ => none

namespace LayoutLayer

def merge (base upper : LayoutLayer) : LayoutLayer :=
  ⟨fun field => (upper.name? field).or (base.name? field)⟩

def resolve (layer : LayoutLayer) : Layout :=
  ⟨fun field => (layer.name? field).getD field.default⟩

/-- The layer with the names given for all fields in order. -/
def ofNames (names : List (Option String)) : LayoutLayer :=
  ⟨fun field => ((LayoutField.all.zip names).find? (·.1 = field)).bind (·.2)⟩

def ofDocument? (document : Document) : Option LayoutLayer := do
  let given ←
    document.record? (LayoutField.all.map fun field => ⟨field.key, false⟩)
  return ofNames (← given.mapM (Document.optional? Document.text?))

end LayoutLayer

end AttributeQuery
