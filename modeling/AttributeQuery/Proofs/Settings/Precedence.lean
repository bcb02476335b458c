import AttributeQuery.Proofs.Settings.Merging

/-!
# Precedence of settings

Every setting is taken from its own environment variable if that is set and not
empty, otherwise from the settings file if that gives it, and otherwise it has
its default. A fault of the file is reported before one of a variable, and both
before one of the settings that result.
-/

namespace AttributeQuery

/-! ## Files -/

/-- A settings file gives a layer: a file that is missing gives the empty one,
and one that is there has to be readable and to hold a layer. -/
inductive FileState.Gives : FileState → SettingsLayer → Prop where
  | missing : Gives .missing {}
  | readable {text : String} {layer : SettingsLayer}
      (read : SettingsLayer.ofToml text = .ok layer) : Gives
      (.readable text) layer

theorem Source.layer_file_eq_ok {file : FileState} {layer : SettingsLayer} :
    (Source.file file).layer = .ok layer ↔ file.Gives layer := by
  constructor
  · intro read
    cases file with
    | missing =>
        rw [← Except.ok.inj read]
        exact .missing
    | unreadable => cases read
    | readable text => exact .readable read
  · intro gives
    cases gives with
    | missing => rfl
    | readable read => exact read

/-! ## Variables -/

namespace Environment

variable {environment : Environment}

/-- The variables that have to be readable can be read where they are set. -/
structure IsReadable (environment : Environment) : Prop where
  dialect : ∀ value, environment.value? "DIALECT" = some value →
    ∃ dialect, Dialect.read value = .ok dialect
  emptyAll : ∀ value, environment.value? "EMPTY_ALL" = some value →
    ∃ choice, EmptyAll.read value = .ok choice
  maxRelationDepth : ∀ value,
    environment.value? "MAX_RELATION_DEPTH" = some value →
    ∃ depth, natural? value = some depth
  mergeEqualities : ∀ value,
    environment.value? "MERGE_EQUALITIES" = some value →
    ∃ merging, boolean? value = some merging

/-- What a variable is read as, if it is set. -/
def given? {α : Type} (environment : Environment) (name : String)
    (read : String → Option α) : Option α :=
  (environment.value? name).bind read

section Read

variable {α : Type} {name : String} {read : String → Option α}
  {fault : String → ValueFault}

/-- Reading a variable succeeds unless it is set to what cannot be read. -/
theorem read?_eq_ok {result : Option α} :
    environment.read? name read fault = .ok result ↔
      (∀ value, environment.value? name = some value → ∃ meant,
        read value = some meant) ∧
        result = environment.given? name read := by
  unfold read? given?
  cases environment.value? name with
  | none => simp [eq_comm]
  | some value => cases found : read value <;> simp [found, eq_comm]

end Read

/-- The options that variables set. -/
def givenOptions (environment : Environment) : OptionsLayer where
  dialect :=
    environment.given? "DIALECT" fun value => (Dialect.read value).toOption
  emptyAll :=
    environment.given? "EMPTY_ALL" fun value => (EmptyAll.read value).toOption
  maxRelationDepth := environment.given? "MAX_RELATION_DEPTH" natural?
  mergeEqualities := environment.given? "MERGE_EQUALITIES" boolean?

theorem options_eq_ok {options : OptionsLayer} :
    environment.options = .ok options ↔
      environment.IsReadable ∧ options = environment.givenOptions := by
  unfold Environment.options
  simp only [bind_eq_ok, pure_eq_ok, read?_eq_ok, toOption_eq_some]
  constructor
  · rintro ⟨_, ⟨dialect, rfl⟩, _, ⟨emptyAll, rfl⟩, _, ⟨depth, rfl⟩, _,
      ⟨merging, rfl⟩, rfl⟩
    exact ⟨⟨dialect, emptyAll, depth, merging⟩, rfl⟩
  · rintro ⟨isReadable, rfl⟩
    exact ⟨_, ⟨isReadable.dialect, rfl⟩, _, ⟨isReadable.emptyAll, rfl⟩,
      _, ⟨isReadable.maxRelationDepth, rfl⟩, _,
      ⟨isReadable.mergeEqualities, rfl⟩, rfl⟩

/-- The layer that variables set. -/
def givenLayer (environment : Environment) : SettingsLayer where
  options := some environment.givenOptions
  layout := some ⟨fun field => environment.value? field.variableName⟩
  database := some ⟨environment.value? "DATABASE_URL"⟩

theorem layer_eq_ok {layer : SettingsLayer} :
    environment.layer = .ok layer ↔ environment.IsReadable ∧
      layer = environment.givenLayer := by
  unfold Environment.layer
  simp only [bind_eq_ok, pure_eq_ok, options_eq_ok]
  constructor
  · rintro ⟨_, ⟨isReadable, rfl⟩, rfl⟩
    exact ⟨isReadable, rfl⟩
  · rintro ⟨isReadable, rfl⟩
    exact ⟨_, ⟨isReadable, rfl⟩, rfl⟩

/-- The settings that variables and a layer under them give: each setting is
what its own variable is read as, if that is set, or else what the layer gives,
or else its default. -/
def settingsOver (environment : Environment) (layer : SettingsLayer) :
    Settings where
  options :=
    { dialect := ((environment.given? "DIALECT" fun value =>
        (Dialect.read value).toOption).or layer.dialect?).getD .postgres
      emptyAll := ((environment.given? "EMPTY_ALL" fun value =>
        (EmptyAll.read value).toOption).or layer.emptyAll?).getD .vacuous
      maxRelationDepth :=
        ((environment.given? "MAX_RELATION_DEPTH" natural?).or
          layer.maxRelationDepth?).getD 8
      mergeEqualities :=
        ((environment.given? "MERGE_EQUALITIES" boolean?).or
          layer.mergeEqualities?).getD true }
  layout := ⟨fun field =>
    ((environment.value? field.variableName).or (layer.name? field)).getD
      field.default⟩
  databaseUrl :=
    ((environment.value? "DATABASE_URL").or layer.url?).getD
      "sqlite:./serverdb.db"

/-- The variables of an environment win over the layer under them. -/
theorem resolve_merge_givenLayer (layer : SettingsLayer) :
    (layer.merge environment.givenLayer).resolve =
      environment.settingsOver layer := by
  rw [SettingsLayer.resolve_eq]
  simp only [SettingsLayer.dialect?_merge, SettingsLayer.emptyAll?_merge,
    SettingsLayer.maxRelationDepth?_merge, SettingsLayer.mergeEqualities?_merge,
    SettingsLayer.name?_merge, SettingsLayer.url?_merge]
  rfl

end Environment

namespace Settings

variable {file : FileState} {environment : Environment} {layer : SettingsLayer}

theorem ofLayer_eq_ok {settings : Settings} :
    ofLayer layer = .ok settings ↔ settings = layer.resolve ∧
      settings.check = .ok () := by
  unfold ofLayer
  rw [check_bind_eq_ok, pure_eq_ok]
  constructor
  · rintro ⟨checked, rfl⟩
    exact ⟨rfl, checked⟩
  · rintro ⟨rfl, checked⟩
    exact ⟨checked, rfl⟩

/-- A file and variables are read one after the other, and the layer that
results is checked in the end. -/
theorem ofFileAndEnvironment_eq :
    ofFileAndEnvironment file environment = (do
      let layer ← (Source.file file).layer
      let upper ← environment.layer
      ofLayer (layer.merge upper)) := by
  have defaults : Source.defaults.layer = pure {} := rfl
  have given : (Source.environment environment).layer = environment.layer := rfl
  simp only [ofFileAndEnvironment, Source.mergedLayer_eq, List.mapM_cons,
    List.mapM_nil, defaults, given, bind_assoc, pure_bind,
    SettingsLayer.mergeAll, List.foldl_cons, List.foldl_nil,
    SettingsLayer.empty_merge]

/-- The settings of variables alone are those of a file that is missing. -/
theorem ofEnvironment_eq :
    ofEnvironment environment = ofFileAndEnvironment .missing environment := by
  have missing : (Source.file .missing).layer = pure {} := rfl
  have given : (Source.environment environment).layer = environment.layer := rfl
  rw [ofFileAndEnvironment_eq]
  simp only [ofEnvironment, Source.mergedLayer_eq, List.mapM_cons,
    List.mapM_nil, missing, given, bind_assoc, pure_bind,
    SettingsLayer.mergeAll, List.foldl_cons, List.foldl_nil]

theorem ofFileAndEnvironment_eq_ok {settings : Settings} :
    ofFileAndEnvironment file environment = .ok settings ↔
      ∃ layer, file.Gives layer ∧ environment.IsReadable ∧
        settings = environment.settingsOver layer ∧
        settings.check = .ok () := by
  rw [ofFileAndEnvironment_eq]
  simp only [bind_eq_ok, Source.layer_file_eq_ok, Environment.layer_eq_ok,
    ofLayer_eq_ok]
  constructor
  · rintro ⟨layer, gives, _, ⟨isReadable, rfl⟩, resolved, checked⟩
    rw [Environment.resolve_merge_givenLayer] at resolved
    exact ⟨layer, gives, isReadable, resolved, checked⟩
  · rintro ⟨layer, gives, isReadable, resolved, checked⟩
    rw [← Environment.resolve_merge_givenLayer] at resolved
    exact ⟨layer, gives, _, ⟨isReadable, rfl⟩, resolved, checked⟩

end Settings

end AttributeQuery
