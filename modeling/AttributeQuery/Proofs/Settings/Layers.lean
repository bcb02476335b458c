import Mathlib
import AttributeQuery.Settings.Basic

/-!
# Layers of settings

What a layer gives for each setting, whether the section of the setting is
absent or only the setting unset. Putting a layer over another one and resolving
a layer are described setting by setting: of two layers the upper one wins if it
gives the setting, and a setting that no layer gives has its default.
-/

namespace AttributeQuery

namespace SettingsLayer

/-! ## What a layer gives -/

/-- The dialect that a layer gives. -/
def dialect? (layer : SettingsLayer) : Option Dialect :=
  layer.options.bind (·.dialect)

/-- What a layer gives for the meaning of an empty conjunction. -/
def emptyAll? (layer : SettingsLayer) : Option EmptyAll :=
  layer.options.bind (·.emptyAll)

/-- The longest chain of links that a layer gives. -/
def maxRelationDepth? (layer : SettingsLayer) : Option Nat :=
  layer.options.bind (·.maxRelationDepth)

/-- Whether equalities are merged, if a layer gives it. -/
def mergeEqualities? (layer : SettingsLayer) : Option Bool :=
  layer.options.bind (·.mergeEqualities)

/-- The name that a layer gives for a layout field. -/
def name? (layer : SettingsLayer) (field : LayoutField) : Option String :=
  layer.layout.bind (·.name? field)

/-- The url of the database that a layer gives. -/
def url? (layer : SettingsLayer) : Option String :=
  layer.database.bind (·.url)

/-! ## Layers over layers -/

/-- If of two sections the upper one wins a setting, then so it does of sections
that may be absent. -/
theorem mergeSection_bind {Section α : Type}
    {merge : Section → Section → Section} {given : Section → Option α}
    (wins : ∀ base upper,
      given (merge base upper) = (given upper).or (given base))
    (base upper : Option Section) :
    (mergeSection merge base upper).bind given = (upper.bind given).or
      (base.bind given) := by
  cases upper with
  | none => cases base <;> simp [mergeSection]
  | some upper =>
      cases base with
      | none => simp [mergeSection]
      | some base => exact wins base upper

section Merge

variable (base upper : SettingsLayer)

@[simp] theorem dialect?_merge :
    (base.merge upper).dialect? = upper.dialect?.or base.dialect? :=
  mergeSection_bind (fun _ _ => rfl) _ _

@[simp] theorem emptyAll?_merge :
    (base.merge upper).emptyAll? = upper.emptyAll?.or base.emptyAll? :=
  mergeSection_bind (fun _ _ => rfl) _ _

@[simp] theorem maxRelationDepth?_merge :
    (base.merge upper).maxRelationDepth? =
      upper.maxRelationDepth?.or base.maxRelationDepth? :=
  mergeSection_bind (fun _ _ => rfl) _ _

@[simp] theorem mergeEqualities?_merge :
    (base.merge upper).mergeEqualities? =
      upper.mergeEqualities?.or base.mergeEqualities? :=
  mergeSection_bind (fun _ _ => rfl) _ _

@[simp] theorem name?_merge (field : LayoutField) :
    (base.merge upper).name? field = (upper.name? field).or
      (base.name? field) :=
  mergeSection_bind (fun _ _ => rfl) _ _

@[simp] theorem url?_merge :
    (base.merge upper).url? = upper.url?.or base.url? :=
  mergeSection_bind (fun _ _ => rfl) _ _

/-- A layer that gives nothing changes nothing, wherever it stands. -/
@[simp] theorem empty_merge : SettingsLayer.merge {} upper = upper := by
  obtain ⟨options, layout, database⟩ := upper
  cases options <;> cases layout <;> cases database <;> rfl

end Merge

/-- The settings of a layer are what it gives, and the defaults otherwise. -/
theorem resolve_eq (layer : SettingsLayer) :
    layer.resolve =
      { options :=
          { dialect := layer.dialect?.getD .postgres
            emptyAll := layer.emptyAll?.getD .vacuous
            maxRelationDepth := layer.maxRelationDepth?.getD 8
            mergeEqualities := layer.mergeEqualities?.getD true }
        layout := ⟨fun field => (layer.name? field).getD field.default⟩
        databaseUrl := layer.url?.getD "sqlite:./serverdb.db" } := by
  obtain ⟨options, layout, database⟩ := layer
  cases options <;> cases layout <;> cases database <;> rfl

end SettingsLayer

end AttributeQuery
