import AttributeQuery.Proofs.Query.Naming
import AttributeQuery.Proofs.Settings.Precedence
import AttributeQuery.Proofs.Text.Identifier

/-!
# Validation of settings

Which layers are accepted as settings, and for what the others are refused. All
settings that are loaded have been accepted, so the names that statements take
from their layout are plain identifiers.
-/

namespace AttributeQuery

open Text.Identifier

/-! ## Layouts -/

/-- The fields are checked in the order of their declaration. -/
theorem LayoutField.all_pairwise :
    all.Pairwise (·.ctorIdx < ·.ctorIdx) := by decide

theorem LayoutField.mem_before_iff {field earlier : LayoutField}
    {before after : List LayoutField} (parts : all = before ++ field :: after) :
    earlier ∈ before ↔ earlier.ctorIdx < field.ctorIdx := by
  have ordered := all_pairwise
  rw [parts, List.pairwise_append, List.pairwise_cons] at ordered
  obtain ⟨-, ⟨beforeAfter, -⟩, across⟩ := ordered
  constructor
  · exact fun isBefore => across earlier isBefore field List.mem_cons_self
  · intro isEarlier
    have member := earlier.mem_all
    rw [parts, List.mem_append, List.mem_cons] at member
    rcases member with isBefore | rfl | isAfter
    · exact isBefore
    · exact absurd isEarlier (lt_irrefl _)
    · exact absurd isEarlier (beforeAfter earlier isAfter).not_gt

namespace Layout

variable {layout : Layout} {field : LayoutField}

/-- The field is the first, in the order of declaration, whose name is not a
plain identifier. -/
structure IsFirstOffending (layout : Layout) (field : LayoutField) : Prop where
  offends : ¬IsPlain (layout.name field)
  first : ∀ earlier : LayoutField, earlier.ctorIdx < field.ctorIdx →
    IsPlain (layout.name earlier)

theorem find?_eq_some_iff_isFirstOffending :
    LayoutField.all.find? (fun field => !isIdentifier (layout.name field)) =
      some field ↔
      layout.IsFirstOffending field := by
  have passes (earlier : LayoutField) :
      (!!isIdentifier (layout.name earlier)) = true ↔
        IsPlain (layout.name earlier) := by
    rw [Bool.not_not, isIdentifier_iff]
  have offends : (!isIdentifier (layout.name field)) = true ↔
      ¬IsPlain (layout.name field) := by
    rw [← isIdentifier_iff, Bool.not_eq_true, Bool.not_eq_true']
  rw [List.find?_eq_some_iff_append, offends]
  constructor
  · rintro ⟨offends, before, after, parts, passed⟩
    exact ⟨offends, fun earlier isEarlier =>
      (passes earlier).mp
        (passed earlier ((LayoutField.mem_before_iff parts).mpr isEarlier))⟩
  · rintro ⟨offends, first⟩
    obtain ⟨before, after, parts⟩ := List.append_of_mem field.mem_all
    exact ⟨offends, before, after, parts, fun earlier isBefore =>
      (passes earlier).mpr
        (first earlier ((LayoutField.mem_before_iff parts).mp isBefore))⟩

theorem check_eq_error {failure : SettingsError} :
    layout.check = .error failure ↔
      ∃ field, layout.IsFirstOffending field ∧
        failure = .invalidValue ("layout." ++ field.key)
          (.notAnIdentifier (layout.name field)) := by
  unfold check
  constructor
  · intro failed
    split at failed
    next => cases failed
    next field found =>
      exact ⟨field, find?_eq_some_iff_isFirstOffending.mp found,
        (Except.error.inj failed).symm⟩
  · rintro ⟨field, isFirst, rfl⟩
    rw [find?_eq_some_iff_isFirstOffending.mpr isFirst]

end Layout

/-! ## Settings -/

namespace Settings

variable {settings : Settings} {layer : SettingsLayer} {failure : SettingsError}

theorem check_eq_ok_iff_isPlain :
    settings.check = .ok () ↔
      1 ≤ settings.options.maxRelationDepth ∧ ∀ field,
      IsPlain (settings.layout.name field) := by
  rw [check_eq_ok, Layout.check_eq_ok]
  simp only [isIdentifier_iff]

theorem check_eq_error :
    settings.check = .error failure ↔
      (settings.options.maxRelationDepth = 0 ∧ failure = .noRelationDepth) ∨
      (1 ≤ settings.options.maxRelationDepth ∧ ∃ field,
        settings.layout.IsFirstOffending field ∧
        failure = .invalidValue ("layout." ++ field.key)
          (.notAnIdentifier (settings.layout.name field))) := by
  unfold check
  split
  next noDepth => simp [noDepth, eq_comm]
  next isDepth =>
    rw [Layout.check_eq_error]
    simp [isDepth, Nat.one_le_iff_ne_zero]

theorem ofLayer_eq_error :
    ofLayer layer = .error failure ↔ layer.resolve.check = .error failure := by
  unfold ofLayer
  rw [bind_eq_error]
  simp [pure, Except.pure]

/-- Settings that are returned: of a TOML text, of variables alone, or of a file
with variables over it. -/
inductive IsLoaded (settings : Settings) : Prop where
  | toml {text : String} (loaded : ofToml text = .ok settings)
  | environment {environment : Environment}
      (loaded : ofEnvironment environment = .ok settings)
  | file {file : FileState} {environment : Environment}
      (loaded : ofFileAndEnvironment file environment = .ok settings)

theorem IsLoaded.exists_layer (isLoaded : IsLoaded settings) :
    ∃ layer, ofLayer layer = .ok settings := by
  cases isLoaded with
  | toml loaded | environment loaded | file loaded =>
      obtain ⟨layer, -, accepted⟩ := bind_eq_ok.mp loaded
      exact ⟨layer, accepted⟩

/-- The names of settings that are loaded are plain identifiers. -/
theorem IsLoaded.isPlain_name (isLoaded : IsLoaded settings)
    (field : LayoutField) :
    IsPlain (settings.layout.name field) := by
  obtain ⟨layer, accepted⟩ := isLoaded.exists_layer
  exact (check_eq_ok_iff_isPlain.mp (ofLayer_eq_ok.mp accepted).2).2 field

/-- A layer is accepted iff links can be followed at all and all of its names
are plain identifiers; otherwise it is refused for its depth or else for the
first name, in the order of declaration, that is none. So the names of all
settings that are loaded are plain identifiers, and statements, locations,
predicates and conditions take nothing but such names from their layout: they
are made with one stencil for all layouts. -/
theorem ofLayer_admits_plain_names :
    (∀ layer settings, ofLayer layer = .ok settings ↔
      settings = layer.resolve ∧ 1 ≤ layer.resolve.options.maxRelationDepth ∧
        ∀ field, IsPlain (layer.resolve.layout.name field)) ∧
    (∀ layer failure, ofLayer layer = .error failure ↔
      (layer.resolve.options.maxRelationDepth = 0 ∧
        failure = .noRelationDepth) ∨
      (1 ≤ layer.resolve.options.maxRelationDepth ∧
        ∃ field, layer.resolve.layout.IsFirstOffending field ∧
          failure = .invalidValue ("layout." ++ field.key)
            (.notAnIdentifier (layer.resolve.layout.name field)))) ∧
    (∀ settings, IsLoaded settings →
      (∀ field, IsPlain (settings.layout.name field)) ∧
      ∀ schema servertypes query hostnames statement,
        (Compiler.mk schema settings).assemble servertypes query hostnames =
          .ok (some statement) →
        ∃ stencil : Stencil,
          (∀ field, .name field ∈ stencil →
            IsPlain (settings.layout.name field)) ∧
          ∀ layout, ∃ other,
            ((Compiler.mk schema settings).withLayout layout).assemble
              servertypes query hostnames = .ok (some other) ∧
            other.sql = (stencil.fill layout).render statement.dialect ∧
            other.inlineSql = (stencil.fill layout).inline ∧
            other.params = (stencil.fill layout).params) ∧
    (∀ context attr,
      ComputesUniform Location.IsUniform
        fun layout =>
          Location.resolve (Context.withLayout context layout) attr) ∧
    (∀ context attr filter,
      ComputesUniform Predicate.IsUniform
        fun layout =>
          Predicate.ofFilter (Context.withLayout context layout) attr filter) ∧
    (∀ context attr literals,
      ComputesUniform Predicate.IsUniform
        fun layout => Predicate.ofMembership (Context.withLayout context layout)
          attr literals) ∧
    ∀ location predicate, Location.IsUniform location →
      Predicate.IsUniform predicate →
      Condition.IsUniform fun layout =>
        (location layout).apply (predicate layout) := by
  refine ⟨fun layer settings => ?_, fun layer failure => ?_,
    fun settings isLoaded => ?_,
    fun _ _ => Location.resolve_isUniform,
    fun _ _ => Predicate.ofFilter_isUniform,
    fun _ _ => Predicate.ofMembership_isUniform,
    fun _ _ uniform uniformPredicate =>
      Location.apply_isUniform uniform uniformPredicate⟩
  · rw [ofLayer_eq_ok]
    constructor
    · rintro ⟨rfl, checked⟩
      exact ⟨rfl, check_eq_ok_iff_isPlain.mp checked⟩
    · rintro ⟨rfl, accepted⟩
      exact ⟨rfl, check_eq_ok_iff_isPlain.mpr accepted⟩
  · rw [ofLayer_eq_error, check_eq_error]
  · refine ⟨isLoaded.isPlain_name,
      fun schema servertypes query hostnames statement assembled => ?_⟩
    obtain ⟨stencil, fills⟩ := Compiler.assemble_fills_stencil assembled
    exact ⟨stencil, fun field _ => isLoaded.isPlain_name field, fills⟩

/-- A layer with two names that are not plain identifiers is refused for the
first of them. The name of a table that is set by a variable stands in the
statement; with another layout, the same stencil makes the statement. -/
theorem ofLayer_admits_plain_names_host :
    let names : LayoutLayer := ⟨fun
      | .networkColumn => some "intern-ip"
      | .dateTable => some "9to5"
      | _ => none⟩
    let environment : Environment :=
      { entries := [("SERVERDB_SERVER_TABLE", "host")] }
    let schema : Schema := ⟨["vm"], [], []⟩
    ofLayer { layout := some names } =
      .error (.invalidValue "layout.network_column"
        (.notAnIdentifier "intern-ip")) ∧
    ∃ settings statement other, ∃ stencil : Stencil,
      ofEnvironment environment = .ok settings ∧
      settings.layout.name .serverTable = "host" ∧
      IsPlain (settings.layout.name .serverTable) ∧
      (Compiler.mk schema settings).assemble ["vm"] [] {} =
        .ok (some statement) ∧
      ((Compiler.mk schema settings).withLayout {}).assemble ["vm"] [] {} =
        .ok (some other) ∧
      other.sql = (stencil.fill {}).render statement.dialect := by
  intro names environment schema
  obtain ⟨-, refuses, loads, -⟩ := ofLayer_admits_plain_names
  have isFirst : names.resolve.IsFirstOffending .networkColumn := by
    refine ⟨?_, fun earlier isEarlier => ?_⟩
    · rw [← isIdentifier_iff]
      decide
    · rw [← isIdentifier_iff]
      revert isEarlier
      cases earlier <;> decide
  let settings := environment.settingsOver {}
  have options : environment.options = .ok {} := by decide +kernel
  have isReadable : environment.IsReadable :=
    (Environment.options_eq_ok.mp options).1
  have checked : settings.check = .ok () := by decide +kernel
  have loaded : ofEnvironment environment = .ok settings := by
    rw [ofEnvironment_eq, ofFileAndEnvironment_eq_ok]
    exact ⟨{}, .missing, isReadable, rfl, checked⟩
  have isHost : settings.layout.name .serverTable = "host" := by decide +kernel
  have assembled : ∃ statement,
      (Compiler.mk schema settings).assemble ["vm"] [] {} =
      .ok (some statement) := ⟨_, rfl⟩
  obtain ⟨statement, assembled⟩ := assembled
  obtain ⟨arePlain, fills⟩ := loads settings (.environment loaded)
  obtain ⟨stencil, -, fill⟩ := fills schema _ _ _ statement assembled
  obtain ⟨other, assembledOther, written, -⟩ := fill {}
  exact ⟨(refuses _ _).mpr (.inr ⟨by decide, _, isFirst, rfl⟩), settings,
    statement, other,
    stencil, loaded, isHost, arePlain _, assembled, assembledOther, written⟩

end Settings

end AttributeQuery
