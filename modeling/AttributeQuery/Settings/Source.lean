import AttributeQuery.Document.OfToml
import AttributeQuery.Settings.Basic
import AttributeQuery.Text.Numeral

/-!
# Sources of settings

Settings come from the built-in defaults, from a TOML file and from environment
variables, a later one of these taking precedence. An environment variable that
is empty counts as unset.
-/

namespace AttributeQuery

/-- What is found at the path of a settings file. -/
inductive FileState where
  | missing
  | unreadable
  | readable (text : String)
  deriving BEq, DecidableEq, Repr

/-- A file with the given bytes, which are readable when they are UTF-8. -/
def FileState.ofBytes (bytes : ByteArray) : FileState :=
  match String.fromUTF8? bytes with
  | some text => .readable text
  | none => .unreadable

/-- The names and values of environment variables. -/
structure Environment where
  /-- What the names of all variables start with. -/
  start : String := "SERVERDB_"
  entries : List (String × String) := []
  deriving BEq, DecidableEq, Repr

namespace Environment

def fullName (environment : Environment) (name : String) : String :=
  environment.start ++ name

/-- The value of a variable that is set and not empty. -/
def value? (environment : Environment) (name : String) : Option String :=
  ((environment.entries.find?
      (·.1 = environment.fullName name)).map (·.2)).filter (· ≠ "")

/-- Read a variable that is set; a value that cannot be read is a fault. -/
def read? {α : Type} (environment : Environment) (name : String)
    (read : String → Option α) (fault : String → ValueFault) :
    Except SettingsError (Option α) :=
  match environment.value? name with
  | none => .ok none
  | some value =>
      match read value with
      | some result => .ok (some result)
      | none => .error (.invalidValue (environment.fullName name) (fault value))

/-- A truth value: `true` or `false` in any case of the letters, 1 or 0. -/
def boolean? (text : String) : Option Bool :=
  let lowered := Text.Ascii.lower text
  if lowered = "true" || lowered = "1" then some true
  else if lowered = "false" || lowered = "0" then some false
  else none

/-- A natural number of at most 64 bits. -/
def natural? (text : String) : Option Nat :=
  (Text.Numeral.natural? text).filter (· < UInt64.size)

/-- The compiler options set by variables. The first variable that cannot be
read is reported. -/
def options (environment : Environment) :
    Except SettingsError OptionsLayer := do
  return {
    dialect :=
      ← environment.read? "DIALECT"
        (fun text => (Dialect.read text).toOption) .notADialect
    emptyAll :=
      ← environment.read? "EMPTY_ALL"
        (fun text => (EmptyAll.read text).toOption) .notAnEmptyAll
    maxRelationDepth :=
      ← environment.read? "MAX_RELATION_DEPTH" natural? .notANatural
    mergeEqualities :=
      ← environment.read? "MERGE_EQUALITIES" boolean? .notABoolean }

/-- The layer that the variables set. It has all sections, set or not. -/
def layer (environment : Environment) : Except SettingsError SettingsLayer := do
  return {
    options := some (← environment.options)
    layout := some ⟨fun field => environment.value? field.variableName⟩
    database := some ⟨environment.value? "DATABASE_URL"⟩ }

end Environment

def SettingsLayer.ofToml (text : String) : Except SettingsError SettingsLayer :=
  match (Document.ofToml? text).bind SettingsLayer.ofDocument? with
  | some layer => .ok layer
  | none => .error .malformedFile

inductive Source where
  | defaults
  | file (state : FileState)
  | environment (environment : Environment)
  deriving BEq, DecidableEq, Repr

namespace Source

def name : Source → String
  | .defaults => "defaults"
  | .file _ => "toml-config"
  | .environment _ => "environment"

/-- The rank of a source. A source of a higher rank overrides the others. -/
def precedence : Source → Nat
  | .defaults => 10
  | .file _ => 20
  | .environment _ => 50

def layer : Source → Except SettingsError SettingsLayer
  | .defaults => .ok {}
  | .file .missing => .ok {}
  | .file .unreadable => .error .unreadableFile
  | .file (.readable text) => SettingsLayer.ofToml text
  | .environment given => given.layer

/-- The layers of sources put over each other, given in ascending order of
precedence. -/
def mergedLayer (sources : List Source) : Except SettingsError SettingsLayer :=
  sources.foldlM
    (fun merged source => do return merged.merge (← source.layer)) {}

end Source

namespace Settings

def ofToml (text : String) : Except SettingsError Settings := do
  Settings.ofLayer (← SettingsLayer.ofToml text)

/-- The settings of environment variables alone. -/
def ofEnvironment (environment : Environment) :
    Except SettingsError Settings := do
  Settings.ofLayer (← Source.mergedLayer [.environment environment])

/-- The settings of a file with environment variables over it. -/
def ofFileAndEnvironment (file : FileState) (environment : Environment) :
    Except SettingsError Settings := do
  Settings.ofLayer
    (← Source.mergedLayer [.defaults, .file file, .environment environment])

end Settings

end AttributeQuery
