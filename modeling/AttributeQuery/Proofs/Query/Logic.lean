import AttributeQuery.Proofs.Query.Faults
import AttributeQuery.Proofs.Query.Location

/-!
# The logic of filters

A filter is compiled to a condition that is as true as the filter, on every row
and in every database: its leaves have the truth of their own conditions, and
NOT, AND and OR of three-valued logic stand between them. Compiling a run of
equalities to one list of values changes neither the truth nor whether there is
a condition at all.
-/

namespace AttributeQuery

open Sql

/-- The truth of an empty conjunction. -/
def EmptyAll.truth : EmptyAll → Truth
  | .vacuous => .yes
  | .unsatisfiable => .no

namespace Filter

mutual

/-- The truth of a filter, given that of an empty conjunction and of leaves. -/
def fold (emptyAll : Truth) (leafTruth : Leaf → Truth) : Filter → Truth
  | .leaf single => leafTruth single
  | .not inner => (inner.fold emptyAll leafTruth).not
  | .all [] => emptyAll
  | .all (child :: rest) => .all (foldAll emptyAll leafTruth (child :: rest))
  | .any children => .any (foldAll emptyAll leafTruth children)

/-- The truths of filters. -/
def foldAll (emptyAll : Truth) (leafTruth : Leaf → Truth) :
    List Filter → List Truth
  | [] => []
  | child :: rest =>
      child.fold emptyAll leafTruth :: foldAll emptyAll leafTruth rest

end

section Congruence

variable {emptyAll : Truth} {leafTruth otherTruth : Leaf → Truth}

mutual

/-- The truth of a filter depends on no leaves but its own. -/
theorem fold_congr : (filter : Filter) →
    (∀ leaf ∈ filter.leaves, leafTruth leaf = otherTruth leaf) →
    filter.fold emptyAll leafTruth = filter.fold emptyAll otherTruth
  | .leaf single, same => same single List.mem_cons_self
  | .not inner, same => congrArg Truth.not (fold_congr inner same)
  | .all [], _ => rfl
  | .all (child :: rest), same =>
      congrArg Truth.all (foldAll_congr (child :: rest) same)
  | .any children, same => congrArg Truth.any (foldAll_congr children same)

theorem foldAll_congr : (children : List Filter) →
    (∀ leaf ∈ leavesOfAll children, leafTruth leaf = otherTruth leaf) →
    foldAll emptyAll leafTruth children = foldAll emptyAll otherTruth children
  | [], _ => rfl
  | child :: rest, same => by
      have sameChild := fold_congr child fun leaf member =>
        same leaf (List.mem_append_left _ member)
      have sameRest := foldAll_congr rest fun leaf member =>
        same leaf (List.mem_append_right _ member)
      rw [foldAll, foldAll, sameChild, sameRest]

end

end Congruence

variable {Value : Type} {database : Database Value} {scopes : Scopes Value}

/-! ## Empty combinations -/

theorem always_states :
    always.States [.not (.and (.constant true) (.constant false))] := by
  have spelled : Sql.Spells "NOT (true AND false)".toList
      [.word "NOT", .opening, .word "true",
        .word "AND", .word "false", .closing] .free := .of_run (by decide)
  refine ⟨[.word "NOT",
    .group (.of [.word "true", .word "AND", .word "false"])],
    fun outer before => ?_, .single (by simp [Item.isWord]) rfl⟩
  exact (Condition.Reads.raw spelled rfl rfl).settle

theorem never_states :
    never.States [.not (.or (.constant true) (.constant false))] := by
  have spelled : Sql.Spells "NOT (true OR false)".toList
      [.word "NOT", .opening, .word "true",
        .word "OR", .word "false", .closing] .free := .of_run (by decide)
  refine ⟨[.word "NOT", .group (.of [.word "true", .word "OR", .word "false"])],
    fun outer before => ?_, .single (by simp [Item.isWord]) rfl⟩
  exact (Condition.Reads.raw spelled rfl rfl).settle

theorem always_hasTruth : Condition.HasTruth database scopes always .yes :=
  ⟨_, always_states, rfl⟩

theorem never_hasTruth : Condition.HasTruth database scopes never .no :=
  ⟨_, never_states, rfl⟩

theorem emptyAll_hasTruth (context : Context) :
    Condition.HasTruth database scopes
      (emptyAll context) context.options.emptyAll.truth := by
  unfold emptyAll
  cases context.options.emptyAll with
  | vacuous => exact always_hasTruth
  | unsatisfiable => exact never_hasTruth

/-! ## Runs of equalities -/

theorem any_ofBool {α : Type} (values : List α) (holds : α → Bool) :
    Truth.any (values.map fun value => .ofBool (holds value)) =
      .ofBool (values.any holds) := by
  induction values with
  | nil => rfl
  | cons value rest ih => simp [ih, Truth.ofBool_or]

/-- Some row has one of some values when for one of the values some row has
it. -/
theorem any_comm {α β : Type} (values : List α) (rows : List β)
    (holds : α → β → Bool) :
    (values.any fun value => rows.any (holds value)) =
      rows.any fun row => values.any fun value => holds value row := by
  rw [Bool.eq_iff_iff]
  simp only [List.any_eq_true]
  constructor
  · rintro ⟨value, isValue, row, isRow, held⟩
    exact ⟨row, isRow, value, isValue, held⟩
  · rintro ⟨row, isRow, value, isValue, held⟩
    exact ⟨value, isValue, row, isRow, held⟩

theorem any_and_eq_yes {α : Type} (values : List α) (met : Truth)
    (truth : α → Truth) :
    (values.any fun value => met.and (truth value) = .yes) =
      decide (met.and (.any (values.map truth)) = .yes) := by
  rw [Bool.eq_iff_iff]
  simp only [List.any_eq_true, decide_eq_true_eq, Truth.and_eq_yes,
    Truth.any_eq_yes, List.mem_map]
  tauto

variable {context : Context} {attr : Attribute} {location : Location}

/-- A list of values at a location is the disjunction of the equalities with its
values, each at the location. -/
theorem apply_membership_hasTruth (readable : location.IsReadable)
    (first : SqlValue) (others : List SqlValue) {castText type : Option String}
    (isCast : IsCast castText type) {membership : Predicate}
    (notNegated : membership.isNegated = false)
    (aboutValue : membership.subject = .value)
    (template : membership.template =
      ⟨[TemplatePiece.column, TemplatePiece.sql " IN ("] ++
        Template.conditionPieces
          (Condition.paramList castText (first :: others)) ++
        [TemplatePiece.sql ")"]⟩) :
    ∃ equalityTruth : SqlValue → Truth,
      (∀ value, Condition.HasTruth database scopes
        (location.apply (Predicate.comparedBy "=" value castText))
        (equalityTruth value)) ∧
      Condition.HasTruth database scopes (location.apply membership)
        (.any ((first :: others).map equalityTruth)) := by
  have states := Predicate.membership_states isCast first others
  rw [← template] at states
  have nonempty : membership.template.isEmpty = false := by rw [template]; rfl
  have equality (value : SqlValue) := Predicate.equality_states isCast value
  cases readable with
  | @column name qualifier column isColumn =>
      refine ⟨fun value => Operand.compared database scopes "="
        (.column qualifier column) (.boundAs type value), fun value => ?_, ?_⟩
      · exact ⟨_,
          Location.apply_states
            (Location.located_column_states isColumn (equality value)),
          by simp [Predicate.comparedBy, Expression.truth]⟩
      · refine ⟨_,
          Location.apply_states
            (Location.located_column_states isColumn states), ?_⟩
        simp [notNegated, Expression.truth, Function.comp_def]
  | @existence table _ _ _ partLists isTable isSome stated isColumn =>
      obtain ⟨qualifier, column, isColumn⟩ := isColumn .value
      let met (row : Row Value) : Truth :=
        .all (partLists.flatten.map fun part =>
          part.truth database (("sub", row) :: scopes))
      let equals (value : SqlValue) (row : Row Value) : Truth :=
        Operand.compared database (("sub", row) :: scopes) "="
          (.column qualifier column) (.boundAs type value)
      refine ⟨fun value => .ofBool ((database.rows table).any fun row =>
        (met row).and (equals value row) = .yes), fun value => ?_, ?_⟩
      · refine ⟨_,
          Location.apply_states
            (Location.located_existence_states isTable isSome stated isColumn
              rfl (equality value)), ?_⟩
        simp [Predicate.comparedBy, Expression.truth, Expression.truth_allOf,
          Truth.all_append, met, equals]
      · rw [← aboutValue] at isColumn
        refine ⟨_,
          Location.apply_states
            (Location.located_existence_states isTable isSome stated isColumn
              nonempty states), ?_⟩
        rw [any_ofBool, any_comm]
        simp only [any_and_eq_yes]
        simp [notNegated, Expression.truth, Expression.truth_allOf,
          Truth.all_append, met, equals, Function.comp_def]

/-! ## Filters -/

/-- The leaves of an attribute have given truths at a location. -/
def LeavesHave (database : Database Value) (scopes : Scopes Value)
    (context : Context) (attr : Attribute) (location : Location)
    (leafTruth : Leaf → Truth) : Prop :=
  ∀ leaf predicate, Predicate.ofLeaf context attr leaf = .ok predicate →
    Condition.HasTruth database scopes (location.apply predicate)
      (leafTruth leaf)

variable {leafTruth : Leaf → Truth}

/-- A list of literals is the disjunction of the equalities with them. -/
theorem ofMembership_hasTruth (readable : location.IsReadable)
    (leaves : LeavesHave database scopes context attr location leafTruth)
    (notBoolean : attr.isBoolean = false) {literal : Literal}
    {rest : List Literal} {predicate : Predicate}
    (built : Predicate.ofMembership context attr (literal :: rest) =
      .ok predicate) :
    Condition.HasTruth database scopes (location.apply predicate)
      (.any ((literal :: rest).map fun literal =>
        leafTruth (.equals literal))) := by
  obtain ⟨first, others, bound, notNegated, aboutValue, template⟩ :=
    Predicate.ofMembership_eq_ok built
  obtain ⟨equalityTruth, equalities, membership⟩ :=
    apply_membership_hasTruth readable first others
      (Predicate.isCast_operandCast context attr) notNegated aboutValue template
  have same : (first :: others).map equalityTruth =
      (literal :: rest).map fun literal => leafTruth (.equals literal) := by
    rw [← List.forall₂_eq_eq_eq, List.forall₂_map_left_iff,
      List.forall₂_map_right_iff]
    refine bound.flip.imp fun value literal boundValue => ?_
    refine (equalities value).unique (leaves (.equals literal) _ ?_)
    rw [ofLeaf_equals notBoolean, Predicate.ofEquality, boundValue]
    rfl
  rwa [same] at membership

/-- A run of equalities is the disjunction of them. -/
theorem compileRun_hasTruth (readable : location.IsReadable)
    (leaves : LeavesHave database scopes context attr location leafTruth)
    {run : List Literal} (mergeable : run = [] ∨ attr.isBoolean = false)
    {conditions : List Condition}
    (compiled : compileRun context attr location run = .ok conditions) :
    ∃ truths,
      List.Forall₂ (Condition.HasTruth database scopes) conditions truths ∧
      .any truths =
        Truth.any (run.map fun literal => leafTruth (.equals literal)) ∧
      (run ≠ [] → conditions ≠ []) := by
  match run with
  | [] =>
      obtain rfl := Except.ok.inj compiled
      exact ⟨[], .nil, rfl, fun isSome => absurd rfl isSome⟩
  | [literal] =>
      obtain ⟨predicate, built, returned⟩ := bind_eq_ok.mp compiled
      rw [← pure_eq_ok.mp returned]
      exact ⟨_, .cons (leaves _ _ built) .nil, rfl, by simp⟩
  | literal :: second :: rest =>
      obtain ⟨predicate, built, returned⟩ := bind_eq_ok.mp compiled
      rw [← pure_eq_ok.mp returned]
      have notBoolean : attr.isBoolean = false := by simpa using mergeable
      have membership := ofMembership_hasTruth readable leaves notBoolean built
      exact ⟨_, .cons membership .nil, by simp, by simp⟩

mutual

/-- A compiled filter is as true as the filter. -/
theorem compile_hasTruth (readable : location.IsReadable)
    (leaves : LeavesHave database scopes context attr location leafTruth) :
    ∀ (filter : Filter) {condition : Condition},
    filter.compile context attr location = .ok condition →
      Condition.HasTruth database scopes condition
        (filter.fold context.options.emptyAll.truth leafTruth)
  | .leaf single, condition, compiled => by
      obtain ⟨predicate, built, returned⟩ := bind_eq_ok.mp compiled
      rw [← pure_eq_ok.mp returned]
      exact leaves single predicate built
  | .not inner, condition, compiled => by
      obtain ⟨innerCondition, compiledInner, returned⟩ := bind_eq_ok.mp compiled
      rw [← pure_eq_ok.mp returned]
      exact (compile_hasTruth readable leaves inner compiledInner).negate
  | .all [], condition, compiled => by
      obtain rfl := Except.ok.inj compiled
      exact emptyAll_hasTruth context
  | .all (child :: rest), condition, compiled => by
      obtain ⟨conditions, compiledAll, returned⟩ := bind_eq_ok.mp compiled
      rw [← pure_eq_ok.mp returned]
      have hold :=
        compileAll_hasTruth readable leaves (child :: rest) compiledAll
      cases conditions with
      | nil => cases hold
      | cons first others => exact Condition.hasTruth_join_and hold
  | .any [], condition, compiled => by
      obtain rfl := Except.ok.inj compiled
      exact never_hasTruth
  | .any (child :: rest), condition, compiled => by
      obtain ⟨conditions, compiledAny, returned⟩ := bind_eq_ok.mp compiled
      rw [← pure_eq_ok.mp returned]
      obtain ⟨truths, hold, same, isSome⟩ :=
        compileAny_hasTruth readable leaves (child :: rest)
          (.inl rfl) compiledAny
      cases conditions with
      | nil => exact absurd rfl (isSome (.inr (by simp)))
      | cons first others =>
          have joined := Condition.hasTruth_join_or hold
          rw [same] at joined
          simpa [fold] using joined

/-- Compiled filters are as true as the filters. -/
theorem compileAll_hasTruth (readable : location.IsReadable)
    (leaves : LeavesHave database scopes context attr location leafTruth) :
    ∀ (children : List Filter) {conditions : List Condition},
    compileAll context attr location children = .ok conditions →
      List.Forall₂ (Condition.HasTruth database scopes) conditions
        (foldAll context.options.emptyAll.truth leafTruth children)
  | [], conditions, compiled => by
      obtain rfl := Except.ok.inj compiled
      exact .nil
  | child :: rest, conditions, compiled => by
      obtain ⟨condition, compiledChild, later⟩ := bind_eq_ok.mp compiled
      obtain ⟨others, compiledRest, returned⟩ := bind_eq_ok.mp later
      rw [← pure_eq_ok.mp returned]
      exact .cons (compile_hasTruth readable leaves child compiledChild)
        (compileAll_hasTruth readable leaves rest compiledRest)

/-- The disjunction of compiled filters is as true as that of the filters and of
the equalities before them. -/
theorem compileAny_hasTruth (readable : location.IsReadable)
    (leaves : LeavesHave database scopes context attr location leafTruth) :
    ∀ (children : List Filter) {run : List Literal}
    {conditions : List Condition}, run = [] ∨ attr.isBoolean = false →
    compileAny context attr location run children = .ok conditions →
      ∃ truths,
        List.Forall₂ (Condition.HasTruth database scopes) conditions truths ∧
        .any truths =
          (Truth.any (run.map fun literal => leafTruth (.equals literal))).or
            (.any (foldAll context.options.emptyAll.truth leafTruth children)) ∧
        (run ≠ [] ∨ children ≠ [] → conditions ≠ [])
  | [], run, conditions, notBoolean, compiled => by
      obtain ⟨truths, hold, same, isSome⟩ :=
        compileRun_hasTruth readable leaves notBoolean compiled
      refine ⟨truths, hold, ?_, by simpa using isSome⟩
      simpa [foldAll] using same
  | child :: rest, run, conditions, notBoolean, compiled => by
      rw [compileAny] at compiled
      split at compiled
      next literal mergeable =>
        obtain ⟨rfl, isNotBoolean⟩ := eq_equals_of_mergeable? mergeable
        obtain ⟨truths, hold, same, isSome⟩ :=
          compileAny_hasTruth readable leaves rest (.inr isNotBoolean) compiled
        refine ⟨truths, hold, ?_, fun _ => isSome (.inl (by simp))⟩
        rw [same]
        simp [foldAll, fold, Filter.equals, Truth.any_append, Truth.or_assoc]
      next =>
        obtain ⟨before, compiledRun, later⟩ := bind_eq_ok.mp compiled
        obtain ⟨condition, compiledChild, afterwards⟩ := bind_eq_ok.mp later
        obtain ⟨others, compiledRest, returned⟩ := bind_eq_ok.mp afterwards
        rw [← pure_eq_ok.mp returned]
        obtain ⟨runTruths, holdRun, sameRun, -⟩ :=
          compileRun_hasTruth readable leaves notBoolean compiledRun
        obtain ⟨restTruths, holdRest, sameRest, -⟩ :=
          compileAny_hasTruth readable leaves rest (.inl rfl) compiledRest
        refine ⟨_, List.rel_append holdRun (.cons
          (compile_hasTruth readable leaves child compiledChild) holdRest),
          ?_, by simp⟩
        rw [Truth.any_append, sameRun, Truth.any_cons, sameRest]
        simp [foldAll]

end

end Filter

/-! ## Preservation -/

namespace Filter

variable {Value : Type} {context : Context} {attr : Attribute}
  {location : Location}

/-- Leaves have the truths of their own conditions. -/
theorem exists_leavesHave (valid : context.layout.check = .ok ())
    (plain : Location.HasPlainColumn attr)
    (resolved : Location.resolve context attr = .ok location)
    (database : Database Value) (scopes : Scopes Value) :
    ∃ leafTruth,
    LeavesHave database scopes context attr location leafTruth := by
  refine ⟨fun leaf => match Predicate.ofLeaf context attr leaf with
    | .ok predicate =>
        ((location.apply predicate).truth? context.dialect database scopes).getD
          .unknown
    | .error _ => .unknown, fun leaf predicate built => ?_⟩
  obtain ⟨parts, states⟩ :=
    Location.apply_ofLeaf_states valid plain resolved built
  exact ⟨parts, states, by simp [built, states.truth?]⟩

/-- The condition of a filter can be read. -/
theorem compile_states (valid : context.layout.check = .ok ())
    (plain : Location.HasPlainColumn attr)
    (resolved : Location.resolve context attr = .ok location) {filter : Filter}
    {condition : Condition}
    (compiled : filter.compile context attr location = .ok condition) :
    ∃ parts, condition.States parts := by
  obtain ⟨leafTruth, leaves⟩ :=
    exists_leavesHave valid plain resolved (.plain fun _ => []) []
  obtain ⟨parts, states, -⟩ := compile_hasTruth
    (Location.resolve_isReadable valid plain resolved) leaves filter compiled
  exact ⟨parts, states⟩

/-- Compiling keeps the logic of a filter: on every row of every database, its
condition has the truth that the filter has when each leaf has the truth of its
own condition. A list of equalities to be merged is as true as their
disjunction, so whether equalities are merged makes no difference. -/
theorem compile_keeps_logic (valid : context.layout.check = .ok ())
    (plain : Location.HasPlainColumn attr)
    (resolved : Location.resolve context attr = .ok location) {filter : Filter}
    {condition : Condition}
    (compiled : filter.compile context attr location = .ok condition)
    (database : Database Value) (server : Row Value) :
    ∃ leafTruth : Leaf → Truth,
      (∀ leaf ∈ filter.leaves, ∃ predicate,
        Predicate.ofLeaf context attr leaf = .ok predicate) ∧
      (∀ leaf predicate, Predicate.ofLeaf context attr leaf = .ok predicate →
        (location.apply predicate).truth? context.dialect database
          [("server", server)] = some (leafTruth leaf)) ∧
      condition.truth? context.dialect database [("server", server)] =
        some (filter.fold context.options.emptyAll.truth leafTruth) ∧
      (∀ merging, ∃ other,
        filter.compile (context.withMerging merging) attr location = .ok other ∧
        other.truth? context.dialect database [("server", server)] =
          condition.truth? context.dialect database [("server", server)]) ∧
      ∀ literals predicate, literals ≠ [] → attr.isBoolean = false →
        Predicate.ofMembership context attr literals = .ok predicate →
        (location.apply predicate).truth? context.dialect database
          [("server", server)] =
          some (.any
            (literals.map fun literal => leafTruth (.equals literal))) := by
  have readable := Location.resolve_isReadable valid plain resolved
  obtain ⟨leafTruth, leaves⟩ :=
    exists_leavesHave valid plain resolved database [("server", server)]
  have holds := compile_hasTruth readable leaves filter compiled
  have succeeds : (filter.leaves.all fun leaf =>
      (Predicate.ofLeaf context attr leaf).isOk) = true := by
    rw [← compile_isOk]
    exact isOk_iff.mpr ⟨condition, compiled⟩
  refine ⟨leafTruth, fun leaf member => ?_, fun leaf predicate built => ?_,
    holds.truth? _,
    fun merging => ?_, fun literals predicate isSome notBoolean built => ?_⟩
  · exact isOk_iff.mp (List.all_eq_true.mp succeeds leaf member)
  · exact (leaves leaf predicate built).truth? _
  · have other :
        (filter.compile (context.withMerging merging) attr location).isOk =
          true := by
      rw [compile_isOk]
      exact succeeds
    obtain ⟨condition, compiledOther⟩ := isOk_iff.mp other
    -- leaves do not depend on merging, so they keep their truths
    have holdsOther := compile_hasTruth readable
      (show LeavesHave database _ (context.withMerging merging) attr location
        leafTruth from
        leaves) filter compiledOther
    exact ⟨condition, compiledOther,
      (holdsOther.truth? _).trans (holds.truth? _).symm⟩
  · obtain ⟨literal, rest, rfl⟩ := List.exists_cons_of_ne_nil isSome
    exact (ofMembership_hasTruth readable leaves notBoolean built).truth? _

/-- Of the tags of virtual machines: one of two, or none at all. -/
theorem compile_keeps_logic_tags :
    let attr : Attribute :=
      { id := "tag", type := .scalar .string, isMulti := true }
    let context : Context :=
      { schema :=
        ⟨["vm"], [attr], [{ servertype := "vm", attributeId := "tag" }]⟩
        options := {}, layout := {}, servertypes := ["vm"], hostnames := {} }
    let filter : Filter :=
      .any [.equals (.string "red"), .equals (.string "blue"), .leaf .empty]
    ∃ location condition, Location.resolve context attr = .ok location ∧
      filter.compile context attr location = .ok condition ∧
      ∃ leafTruth : Leaf → Truth,
        condition.truth? .postgres (.plain fun _ => [])
          [("server", fun _ => none)] =
          some (.any
            [leafTruth (.equals (.string "red")),
              leafTruth (.equals (.string "blue")),
              leafTruth .empty]) := by
  intro attr context filter
  have resolved : ∃ location, Location.resolve context attr = .ok location :=
    ⟨_, rfl⟩
  obtain ⟨location, resolved⟩ := resolved
  have compiled : ∃ condition,
      filter.compile context attr location = .ok condition := by
    rw [← isOk_iff, compile_isOk]
    decide
  obtain ⟨condition, compiled⟩ := compiled
  obtain ⟨leafTruth, -, -, holds, -⟩ := compile_keeps_logic (by decide)
    (fun special isSpecial => by simp [attr] at isSpecial) resolved compiled
    (.plain fun _ => []) fun _ => none
  exact ⟨location, condition, resolved, compiled, leafTruth, holds⟩

end Filter

end AttributeQuery
