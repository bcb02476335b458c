import AttributeQuery.Proofs.Settings.Layers
import AttributeQuery.Proofs.Success
import AttributeQuery.Settings.Source

/-!
# Merging of layers

Layers put over each other from first to last give each setting the value of the
last layer that gives it. This follows from what a single merge does to a single
setting, and with it merging is associative, the empty layer changes nothing on
either side, and a layer that is merged twice in a row counts once.
-/

namespace AttributeQuery

/-! ## Settings one by one -/

/-- One of the settings: the four options, the names of the layout, and the url
of the database. -/
inductive Setting where
  | dialect
  | emptyAll
  | maxRelationDepth
  | mergeEqualities
  | name (field : LayoutField)
  | databaseUrl
  deriving DecidableEq, Repr

namespace Setting

/-- The type of the values of a setting. -/
def Value : Setting → Type
  | .dialect => Dialect
  | .emptyAll => EmptyAll
  | .maxRelationDepth => Nat
  | .mergeEqualities => Bool
  | .name _ => String
  | .databaseUrl => String

/-- The value of a setting that nothing sets. -/
def default : (setting : Setting) → setting.Value
  | .dialect => Dialect.postgres
  | .emptyAll => EmptyAll.vacuous
  | .maxRelationDepth => (8 : Nat)
  | .mergeEqualities => true
  | .name field => field.default
  | .databaseUrl => "sqlite:./serverdb.db"

/-- All settings. -/
def all : List Setting :=
  [.dialect, .emptyAll, .maxRelationDepth, .mergeEqualities] ++
    LayoutField.all.map .name ++ [.databaseUrl]

theorem mem_all (setting : Setting) : setting ∈ all := by
  cases setting with
  | name field => cases field <;> decide
  | _ => decide

example : all.length = 19 := by decide

end Setting

/-- The value of a setting in resolved settings. -/
def Settings.get (settings : Settings) : (setting : Setting) → setting.Value
  | .dialect => settings.options.dialect
  | .emptyAll => settings.options.emptyAll
  | .maxRelationDepth => settings.options.maxRelationDepth
  | .mergeEqualities => settings.options.mergeEqualities
  | .name field => settings.layout.name field
  | .databaseUrl => settings.databaseUrl

/-- There is nothing to settings but the values of all of them. -/
theorem Settings.eq_of_get {first second : Settings}
    (agree : ∀ setting ∈ Setting.all, first.get setting = second.get setting) :
    first = second := by
  have same (setting : Setting) : first.get setting = second.get setting :=
    agree setting setting.mem_all
  have options : first.options = second.options := by
    obtain ⟨⟨_, _, _, _⟩, _, _⟩ := first
    obtain ⟨⟨_, _, _, _⟩, _, _⟩ := second
    exact (Options.mk.injEq ..).mpr
      ⟨same .dialect, same .emptyAll, same .maxRelationDepth,
        same .mergeEqualities⟩
  have layout : first.layout = second.layout := by
    obtain ⟨_, ⟨_⟩, _⟩ := first
    obtain ⟨_, ⟨_⟩, _⟩ := second
    exact congrArg Layout.mk (funext fun field => same (.name field))
  obtain ⟨_, _, _⟩ := first
  obtain ⟨_, _, _⟩ := second
  exact (Settings.mk.injEq ..).mpr ⟨options, layout, same .databaseUrl⟩

/-! ## Sections -/

section Sections

variable (first second third layer : OptionsLayer)

theorem OptionsLayer.merge_assoc :
    (first.merge second).merge third = first.merge (second.merge third) := by
  simp [merge, Option.or_assoc]

theorem OptionsLayer.merge_self : layer.merge layer = layer := by
  simp [merge]

end Sections

section Sections

variable (first second third layer : LayoutLayer)

theorem LayoutLayer.merge_assoc :
    (first.merge second).merge third = first.merge (second.merge third) := by
  simp [merge, Option.or_assoc]

theorem LayoutLayer.merge_self : layer.merge layer = layer := by
  simp [merge]

end Sections

section Sections

variable (first second third layer : DatabaseLayer)

theorem DatabaseLayer.merge_assoc :
    (first.merge second).merge third = first.merge (second.merge third) := by
  simp [merge, Option.or_assoc]

theorem DatabaseLayer.merge_self : layer.merge layer = layer := by
  simp [merge]

end Sections

namespace SettingsLayer

section Sections

variable {Section : Type} {merge : Section → Section → Section}

theorem mergeSection_assoc
    (assoc : ∀ first second third, merge (merge first second) third =
      merge first (merge second third))
    (first second third : Option Section) :
    mergeSection merge (mergeSection merge first second) third =
      mergeSection merge first (mergeSection merge second third) := by
  cases first <;> cases second <;> cases third <;> simp [mergeSection, assoc]

theorem mergeSection_self (self : ∀ value, merge value value = value)
    (value : Option Section) : mergeSection merge value value = value := by
  cases value <;> simp [mergeSection, self]

end Sections

/-! ## Layers -/

/-- What a layer gives for a setting. -/
def given? (layer : SettingsLayer) : (setting : Setting) → Option setting.Value
  | .dialect => layer.dialect?
  | .emptyAll => layer.emptyAll?
  | .maxRelationDepth => layer.maxRelationDepth?
  | .mergeEqualities => layer.mergeEqualities?
  | .name field => layer.name? field
  | .databaseUrl => layer.url?

/-- Merging wins or leaves alone each setting on its own. -/
theorem given?_merge (base upper : SettingsLayer) (setting : Setting) :
    (base.merge upper).given? setting = (upper.given? setting).or
      (base.given? setting) := by
  cases setting with
  | dialect => exact dialect?_merge base upper
  | emptyAll => exact emptyAll?_merge base upper
  | maxRelationDepth => exact maxRelationDepth?_merge base upper
  | mergeEqualities => exact mergeEqualities?_merge base upper
  | name field => exact name?_merge base upper field
  | databaseUrl => exact url?_merge base upper

theorem given?_empty (setting : Setting) : given? {} setting = none := by
  cases setting <;> rfl

/-- Each setting is what the layer gives for it, or its default. -/
theorem get_resolve (layer : SettingsLayer) (setting : Setting) :
    layer.resolve.get setting =
      (layer.given? setting).getD setting.default := by
  rw [resolve_eq]
  cases setting <;> rfl

theorem merge_assoc (first second third : SettingsLayer) :
    (first.merge second).merge third = first.merge (second.merge third) := by
  unfold merge
  simp only [mergeSection_assoc OptionsLayer.merge_assoc,
    mergeSection_assoc LayoutLayer.merge_assoc,
    mergeSection_assoc DatabaseLayer.merge_assoc]

theorem merge_self (layer : SettingsLayer) : layer.merge layer = layer := by
  unfold merge
  rw [mergeSection_self OptionsLayer.merge_self,
    mergeSection_self LayoutLayer.merge_self,
    mergeSection_self DatabaseLayer.merge_self]

theorem merge_empty (layer : SettingsLayer) : layer.merge {} = layer := by
  obtain ⟨options, layout, database⟩ := layer
  cases options <;> cases layout <;> cases database <;> rfl

/-- A setting that the upper layer does not give stays as it was. -/
theorem get_resolve_merge_of_none {base upper : SettingsLayer}
    {setting : Setting} (unset : upper.given? setting = none) :
    (base.merge upper).resolve.get setting = base.resolve.get setting := by
  rw [get_resolve, get_resolve, given?_merge, unset, Option.none_or]

/-! ## Sequences of layers -/

/-- Layers put over each other from first to last, above the empty layer. -/
def mergeAll (layers : List SettingsLayer) : SettingsLayer :=
  layers.foldl merge {}

theorem mergeAll_concat (layers : List SettingsLayer) (last : SettingsLayer) :
    mergeAll (layers ++ [last]) = (mergeAll layers).merge last := by
  simp [mergeAll]

/-- Where no layer gives a setting, neither do all of them together. -/
theorem given?_mergeAll_of_none {setting : Setting}
    {layers : List SettingsLayer}
    (unset : ∀ layer ∈ layers, layer.given? setting = none) :
    (mergeAll layers).given? setting = none := by
  induction layers using List.reverseRecOn with
  | nil => exact given?_empty setting
  | append_singleton layers last ih =>
      have unsetLast : last.given? setting = none := unset last (by simp)
      have unsetBefore : (mergeAll layers).given? setting = none :=
        ih fun layer isLayer => unset layer (by simp [isLayer])
      rw [mergeAll_concat, given?_merge, unsetLast, unsetBefore, Option.none_or]

/-- The last layer that gives a setting decides it. -/
theorem given?_mergeAll_of_last {setting : Setting} {value : setting.Value}
    {before after : List SettingsLayer} {layer : SettingsLayer}
    (given : layer.given? setting = some value)
    (unset : ∀ later ∈ after, later.given? setting = none) :
    (mergeAll (before ++ layer :: after)).given? setting = some value := by
  induction after using List.reverseRecOn with
  | nil => rw [mergeAll_concat, given?_merge, given, Option.some_or]
  | append_singleton after last ih =>
      have unsetLast : last.given? setting = none := unset last (by simp)
      have givenBefore :=
        ih fun later isLater => unset later (by simp [isLater])
      have regrouped : before ++ layer :: (after ++ [last]) =
          (before ++ layer :: after) ++ [last] := by simp
      rw [regrouped, mergeAll_concat, given?_merge, unsetLast, givenBefore,
        Option.none_or]

end SettingsLayer

/-- Sources are merged by merging the layers they hold. -/
theorem Source.mergedLayer_eq (sources : List Source) :
    mergedLayer sources =
      (do return SettingsLayer.mergeAll (← sources.mapM Source.layer)) := by
  unfold mergedLayer SettingsLayer.mergeAll
  generalize ({} : SettingsLayer) = base
  induction sources generalizing base with
  | nil => rfl
  | cons source rest ih =>
      rw [List.foldlM_cons, List.mapM_cons]
      simp only [bind_assoc, pure_bind, List.foldl_cons]
      exact congrArg (source.layer >>= ·)
        (funext fun layer => ih (base.merge layer))

namespace SettingsLayer

/-- Layers merged from first to last give each setting the value of the last of
them that gives it, and its default where none does. A layer that gives nothing,
be its sections absent or empty, changes no settings. Merging is associative
with the empty layer on either side as identity, merging the last layer again
changes nothing, and a setting that a layer does not give stays as it was under
the layer. -/
theorem mergeAll_last_wins (layers : List SettingsLayer) :
    (∀ (setting : Setting) (value : setting.Value)
      (before after : List SettingsLayer) (layer : SettingsLayer),
      layers = before ++ layer :: after →
      layer.given? setting = some value →
      (∀ later ∈ after, later.given? setting = none) →
      (mergeAll layers).resolve.get setting = value) ∧
    (∀ setting : Setting, (∀ layer ∈ layers, layer.given? setting = none) →
      (mergeAll layers).resolve.get setting = setting.default) ∧
    (∀ upper : SettingsLayer,
      (∀ setting ∈ Setting.all, upper.given? setting = none) →
      (mergeAll (layers ++ [upper])).resolve = (mergeAll layers).resolve) ∧
    (∀ first second third : SettingsLayer,
      (first.merge second).merge third = first.merge (second.merge third)) ∧
    (∀ layer : SettingsLayer, SettingsLayer.merge {} layer = layer ∧
      layer.merge {} = layer) ∧
    (∀ last : SettingsLayer,
      mergeAll (layers ++ [last, last]) = mergeAll (layers ++ [last])) ∧
    ∀ (upper : SettingsLayer) (setting : Setting), upper.given? setting = none →
      (mergeAll (layers ++ [upper])).resolve.get setting =
        (mergeAll layers).resolve.get setting := by
  refine ⟨?_, ?_, ?_, merge_assoc,
    fun layer => ⟨empty_merge layer, merge_empty layer⟩, ?_, ?_⟩
  · rintro setting value before after layer rfl given unset
    rw [get_resolve, given?_mergeAll_of_last given unset, Option.getD_some]
  · intro setting unset
    rw [get_resolve, given?_mergeAll_of_none unset, Option.getD_none]
  · intro upper unset
    refine Settings.eq_of_get fun setting isSetting => ?_
    rw [mergeAll_concat, get_resolve_merge_of_none (unset setting isSetting)]
  · intro last
    have regrouped : layers ++ [last, last] = (layers ++ [last]) ++ [last] := by
      simp
    rw [regrouped, mergeAll_concat, mergeAll_concat, merge_assoc, merge_self]
  · intro upper setting unset
    rw [mergeAll_concat, get_resolve_merge_of_none unset]

/-- Of a layer with two options and a name, one with an empty section, and one
with another dialect and the url, the last gives the dialect, the first the
depth and the name, and no layer the meaning of an empty conjunction. -/
theorem mergeAll_last_wins_dialect :
    let lower : SettingsLayer :=
      { options :=
        some { dialect := some .postgres, maxRelationDepth := some 3 }
        layout :=
          some ⟨fun field =>
            if field = .serverTable then some "hosts" else none⟩ }
    let hollow : SettingsLayer := { options := some {}, database := some {} }
    let upper : SettingsLayer :=
      { options := some { dialect := some .sqlite }
        database := some ⟨some "sqlite::memory:"⟩ }
    let settings := (mergeAll [lower, hollow, upper]).resolve
    settings.get .dialect = Dialect.sqlite ∧ settings.get .maxRelationDepth =
      (3 : Nat) ∧
      settings.get (.name .serverTable) = "hosts" ∧
      settings.get .databaseUrl = "sqlite::memory:" ∧
      settings.get .emptyAll = EmptyAll.vacuous := by
  intro lower hollow upper settings
  obtain ⟨last, default, -, -, -, -, -⟩ :=
    mergeAll_last_wins [lower, hollow, upper]
  refine ⟨last .dialect Dialect.sqlite [lower, hollow] [] upper rfl rfl
    (by simp),
    last .maxRelationDepth (3 : Nat) [] [hollow, upper] lower rfl rfl ?_,
    last (.name .serverTable) "hosts" [] [hollow, upper] lower rfl rfl ?_,
    last .databaseUrl "sqlite::memory:" [lower, hollow] [] upper rfl rfl
      (by simp),
    default .emptyAll ?_⟩
  · rintro later isLater
    rcases List.mem_pair.mp isLater with rfl | rfl <;> rfl
  · rintro later isLater
    rcases List.mem_pair.mp isLater with rfl | rfl <;> rfl
  · rintro layer isLayer
    rcases List.mem_cons.mp isLayer with rfl | isLater
    · rfl
    · rcases List.mem_pair.mp isLater with rfl | rfl <;> rfl

end SettingsLayer

end AttributeQuery
