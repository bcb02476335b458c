import AttributeQuery.Settings.Layout
import AttributeQuery.Settings.Options

/-!
# Settings

Settings are compiler options, a layout and the url of a database. They are
resolved from layers that are put over each other: each setting has the value of
the last layer that sets it, or its default.
-/

namespace AttributeQuery

/-- The url of the server database, which may be unset. -/
structure DatabaseLayer where
  url : Option String := none
  deriving BEq, DecidableEq, Repr

namespace DatabaseLayer

def defaultUrl : String := "sqlite:./serverdb.db"

def merge (base upper : DatabaseLayer) : DatabaseLayer :=
  ⟨upper.url.or base.url⟩

/-- The url of a layer, or the default. -/
def resolve (layer : DatabaseLayer) : String :=
  layer.url.getD defaultUrl

def ofDocument? (document : Document) : Option DatabaseLayer := do
  match ← document.record? [⟨"url", true⟩] with
  | [url] => return ⟨← Document.optional? Document.text? url⟩
  | _ => none

end DatabaseLayer

structure Settings where
  options : Options := {}
  layout : Layout := {}
  databaseUrl : String := DatabaseLayer.defaultUrl

/-- Settings of which each, and each of whose sections, may be unset. -/
structure SettingsLayer where
  options : Option OptionsLayer := none
  layout : Option LayoutLayer := none
  database : Option DatabaseLayer := none

namespace SettingsLayer

/-- Put a section over another one; an absent section changes nothing. -/
def mergeSection {α : Type} (merge : α → α → α) : Option α → Option α → Option α
  | some base, some upper => some (merge base upper)
  | base, none => base
  | none, upper => upper

def merge (base upper : SettingsLayer) : SettingsLayer :=
  { options := mergeSection OptionsLayer.merge base.options upper.options
    layout := mergeSection LayoutLayer.merge base.layout upper.layout
    database := mergeSection DatabaseLayer.merge base.database upper.database }

/-- The settings of a layer, with the default where one is unset. -/
def resolve (layer : SettingsLayer) : Settings :=
  { options := (layer.options.getD {}).resolve
    layout := (layer.layout.getD {}).resolve
    databaseUrl := (layer.database.getD {}).resolve }

def ofDocument? (document : Document) : Option SettingsLayer := do
  match ← document.record?
      [⟨"compiler", true⟩, ⟨"layout", true⟩, ⟨"database", true⟩] with
  | [options, layout, database] =>
      return {
        options := ← Document.optional? OptionsLayer.ofDocument? options
        layout := ← Document.optional? LayoutLayer.ofDocument? layout
        database := ← Document.optional? DatabaseLayer.ofDocument? database }
  | _ => none

end SettingsLayer

namespace Settings

/-- Check that links can be followed at all and that every name of the layout is
a plain identifier. -/
def check (settings : Settings) : Except SettingsError Unit :=
  if settings.options.maxRelationDepth = 0 then .error .noRelationDepth
  else settings.layout.check

/-- The settings of a layer, when they pass the checks. -/
def ofLayer (layer : SettingsLayer) : Except SettingsError Settings := do
  layer.resolve.check
  return layer.resolve

end Settings

end AttributeQuery
