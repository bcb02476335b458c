import AttributeQuery.Proofs.Query.Inventory
import AttributeQuery.Proofs.Query.Listing
import AttributeQuery.Proofs.Query.Nulls

/-!
# Negated filters

A filter and its negation select no server both. They leave one out only where
the filter is about a column of the server table that is null: such a server is
selected by neither, unless the filter has a truth even if all its leaves but
those that ask for a value are unknown. Everywhere else one of the two selects a
server.
-/

namespace AttributeQuery

open Sql

/-! ## Decided filters -/

namespace Sql.Truth

theorem and_ne_unknown {first second : Truth} (isFirst : first ≠ .unknown)
    (isSecond : second ≠ .unknown) : first.and second ≠ .unknown := by
  cases first <;> cases second <;> simp_all [Truth.and]

theorem or_ne_unknown {first second : Truth} (isFirst : first ≠ .unknown)
    (isSecond : second ≠ .unknown) : first.or second ≠ .unknown := by
  cases first <;> cases second <;> simp_all [Truth.or]

theorem all_ne_unknown {truths : List Truth}
    (decided : ∀ truth ∈ truths, truth ≠ .unknown) :
    all truths ≠ .unknown := by
  induction truths with
  | nil => decide
  | cons truth rest ih =>
      simp only [List.mem_cons, forall_eq_or_imp] at decided
      exact and_ne_unknown decided.1 (ih decided.2)

theorem any_ne_unknown {truths : List Truth}
    (decided : ∀ truth ∈ truths, truth ≠ .unknown) :
    any truths ≠ .unknown := by
  induction truths with
  | nil => decide
  | cons truth rest ih =>
      simp only [List.mem_cons, forall_eq_or_imp] at decided
      exact or_ne_unknown decided.1 (ih decided.2)

end Sql.Truth

theorem EmptyAll.truth_ne_unknown (emptyAll : EmptyAll) :
    emptyAll.truth ≠ .unknown := by
  cases emptyAll <;> decide

/-- A special attribute is located at its column of the outer server. -/
theorem Location.exists_column_of_resolve {context : Context} {attr : Attribute}
    {location : Location} (plain : HasPlainColumn attr) {special : SpecialField}
    (isSpecial : attr.special = some special)
    (resolved : resolve context attr = .ok location) :
    ∃ text, location = .column text ∧
      IsColumn text "server" special.column := by
  have isServer : IsWord "server" := .of_isIdentifier (by decide)
  simp only [resolve, isSpecial] at resolved
  exact ⟨_, (Except.ok.inj resolved).symm, isServer,
    .of_isIdentifier (plain special isSpecial), rfl⟩

namespace Filter

variable {emptyAll : Truth} {leafTruth : Leaf → Truth}

mutual

/-- A filter of decided leaves is decided. -/
theorem fold_ne_unknown (isEmptyAll : emptyAll ≠ .unknown)
    (decided : ∀ leaf, leafTruth leaf ≠ .unknown) :
    (filter : Filter) → filter.fold emptyAll leafTruth ≠ .unknown
  | .leaf single => decided single
  | .not inner => by
      rw [fold, Ne, Truth.not_eq_unknown]
      exact fold_ne_unknown isEmptyAll decided inner
  | .all [] => isEmptyAll
  | .all (child :: rest) =>
      Truth.all_ne_unknown
        (foldAll_ne_unknown isEmptyAll decided (child :: rest))
  | .any children =>
      Truth.any_ne_unknown (foldAll_ne_unknown isEmptyAll decided children)

theorem foldAll_ne_unknown (isEmptyAll : emptyAll ≠ .unknown)
    (decided : ∀ leaf, leafTruth leaf ≠ .unknown) :
    (children : List Filter) → ∀ truth ∈ foldAll emptyAll leafTruth children,
    truth ≠ .unknown
  | [], truth, member => by simp [foldAll] at member
  | child :: rest, truth, member => by
      rw [foldAll] at member
      cases List.mem_cons.mp member with
      | inl isFirst =>
          rw [isFirst]
          exact fold_ne_unknown isEmptyAll decided child
      | inr isLater =>
          exact foldAll_ne_unknown isEmptyAll decided rest truth isLater

end

variable {Value : Type} {database : Database Value} {context : Context}
  {attr : Attribute} {location : Location} {filter : Filter}
  {condition : Condition} {row : Row Value}

/-- A filter on a column that is null is as true as it is when all leaves but
those that ask for a value are unknown. -/
theorem compile_hasTruth_null (strict : database.IsStrict)
    (valid : context.layout.check = .ok ())
    (plain : Location.HasPlainColumn attr) (isScalar : attr.isLink = false)
    {special : SpecialField} (isSpecial : attr.special = some special)
    (resolved : Location.resolve context attr = .ok location)
    (compiled : filter.compile context attr location = .ok condition)
    (isNull : row special.column = none) :
    condition.HasTruth database [("server", row)]
      (filter.fold context.options.emptyAll.truth Leaf.nullTruth) := by
  have readable := Location.resolve_isReadable valid plain resolved
  have hasField : attr.isSpecial = true := by
    simp [Attribute.isSpecial, isSpecial]
  obtain ⟨text, isLocation, isColumn⟩ :=
    Location.exists_column_of_resolve plain isSpecial resolved
  rw [isLocation] at readable compiled
  exact compile_hasTruth readable
    (leavesHave_nullTruth isColumn strict valid hasField isScalar isNull)
    filter compiled

/-- A filter on a column with a value, or on an attribute of a side table, is
true or false. -/
theorem compile_hasTruth_decided (strict : database.IsStrict)
    (valid : context.layout.check = .ok ())
    (plain : Location.HasPlainColumn attr)
    (isScalar : attr.isSpecial = true → attr.isLink = false)
    (resolved : Location.resolve context attr = .ok location)
    (compiled : filter.compile context attr location = .ok condition)
    (hasValue : ∀ special, attr.special = some special →
      row special.column ≠ none) :
    ∃ truth, condition.HasTruth database [("server", row)] truth ∧
      truth ≠ .unknown := by
  have readable := Location.resolve_isReadable valid plain resolved
  have leaves : ∃ leafTruth,
      LeavesHave database [("server", row)] context attr location leafTruth ∧
      ∀ leaf, leafTruth leaf ≠ .unknown := by
    cases isSpecial : attr.special with
    | none =>
        -- side tables are asked for rows
        apply exists_leavesHave_of_existence readable valid
        apply Location.ne_column_of_resolve _ resolved
        simp [Attribute.isSpecial, isSpecial]
    | some special =>
        have hasField : attr.isSpecial = true := by
          simp [Attribute.isSpecial, isSpecial]
        obtain ⟨text, isLocation, isColumn⟩ :=
          Location.exists_column_of_resolve plain isSpecial resolved
        rw [isLocation]
        exact exists_leavesHave_of_value isColumn strict valid hasField
          (isScalar hasField) (hasValue special isSpecial)
  obtain ⟨leafTruth, haveTruths, decided⟩ := leaves
  exact ⟨_, compile_hasTruth readable haveTruths filter compiled,
    fold_ne_unknown context.options.emptyAll.truth_ne_unknown decided filter⟩

end Filter

/-- That a boolean is false is the negation of that it is true. -/
theorem Filter.compile_false {context : Context} {attr : Attribute}
    (isBoolean : attr.isBoolean = true) (location : Location) :
    (Filter.equals (.boolean false)).compile context attr location =
      (Filter.not (.equals (.boolean true))).compile context attr location := by
  have built (value : Bool) :
      Predicate.ofLeaf context attr (.equals (.boolean value)) = .ok {
        template := ⟨if attr.isSpecial then [.column] else []⟩
        isNegated := !value } := by
    rw [Predicate.ofLeaf, if_pos isBoolean]
    rfl
  simp only [Filter.equals, compile, built]
  cases location with
  | column => rfl
  | existence => rfl

namespace Compiler

theorem conditionIn_not {context : Context} {id : AttributeId} {filter : Filter}
    {condition : Condition}
    (compiled : conditionIn context id filter = .ok condition) :
    conditionIn context id (.not filter) = .ok condition.negate := by
  obtain ⟨attr, location, found, resolved, compiledFilter⟩ :=
    conditionIn_eq_ok.mp compiled
  apply conditionIn_eq_ok.mpr
  refine ⟨attr, location, found, resolved, ?_⟩
  rw [Filter.compile, compiledFilter]
  rfl

variable {Value : Type} {database : Database Value} {row : Row Value}
  {compiler : Compiler} {servertypes : List ServertypeId}
  {hostnames : HostnameIds} {id : AttributeId} {filter : Filter}
  {attr : Attribute}

/-- That a boolean is false is asked for by the same statement as that it is not
true. -/
theorem assemble_false (found : compiler.schema.findAttribute? id = some attr)
    (isBoolean : attr.isBoolean = true) :
    compiler.assemble servertypes [(id, .equals (.boolean false))] hostnames =
      compiler.assemble servertypes [(id, .not (.equals (.boolean true)))]
        hostnames := by
  have required : compiler.schema.requireAttribute id = .ok attr :=
    Schema.requireAttribute_eq_ok.mpr found
  have sameCondition (candidates : List ServertypeId) :
      conditionIn (compiler.context candidates hostnames) id
        (.equals (.boolean false)) =
        conditionIn (compiler.context candidates hostnames) id
          (.not (.equals (.boolean true))) := by
    simp only [conditionIn, context, required]
    change (Location.resolve _ attr >>= _) = (Location.resolve _ attr >>= _)
    exact bind_congr (Filter.compile_false isBoolean)
  apply bind_congr
  intro candidates
  simp only [restrict, sameCondition]

/-! ## Selected servers -/

theorem truth_guardExpression_of_mem {context : Context}
    {candidates : List ServertypeId} {servertype : ServertypeId}
    (member : servertype ∈ candidates)
    (isServertype : row (context.named .servertypeColumn) =
      some (database.text servertype))
    (reflexive : database.compare "=" (database.text servertype)
      (database.text servertype) = .yes) :
    (Location.guardExpression context candidates).truth database
      [("server", row)] = .yes := by
  rw [Location.guardExpression, Expression.truth, Truth.any_eq_yes]
  simp only [List.map_map, List.mem_map, Function.comp_apply]
  refine ⟨servertype, member, ?_⟩
  simp [Operand.compared, isServertype, Database.strictly,
    Database.bound, reflexive]

section Selected

variable (valid : compiler.settings.layout.check = .ok ())
  (plain : ∀ attr ∈ compiler.schema.attributes, Location.HasPlainColumn attr)
  (isRow : row ∈ database.rows (compiler.settings.layout.name .serverTable))
  {servertype : ServertypeId} (requested : servertype ∈ servertypes)
  (isServertype : row (compiler.settings.layout.name .servertypeColumn) =
    some (database.text servertype))
  (reflexive : database.compare "=" (database.text servertype)
    (database.text servertype) = .yes)

include valid plain isRow requested isServertype reflexive

/-- A server of a requested servertype is selected by a filter when the
condition of the filter is true. -/
theorem selects_single {statement : Statement}
    (assembled : compiler.assemble servertypes [(id, filter)] hostnames =
      .ok (some statement)) :
    ∃ candidates condition, compiler.candidates servertypes = .ok candidates ∧
      conditionIn (compiler.context candidates hostnames) id filter =
        .ok condition ∧
      (statement.Selects database row ↔
        condition.HasTruth database [("server", row)] .yes) := by
  obtain ⟨candidates, conditions, declared, areConditions, selects⟩ :=
    selects_iff valid plain assembled database row
  cases areConditions with
  | cons compiled none =>
      cases none
      have isGuarded :
          (Location.guardExpression (compiler.context candidates hostnames)
            candidates).truth database [("server", row)] = .yes :=
        truth_guardExpression_of_mem ((mem_candidates declared).mpr requested)
          isServertype reflexive
      refine ⟨candidates, _, declared, compiled, ?_⟩
      rw [selects]
      simp [isRow, isGuarded]

/-- A filter selects a server when its condition is true, and its negation when
the condition is false. -/
theorem selects_negation {chosen others : Statement}
    (assembled : compiler.assemble servertypes [(id, filter)] hostnames =
      .ok (some chosen))
    (assembledNot : compiler.assemble servertypes
      [(id, .not filter)] hostnames = .ok (some others)) :
    ∃ candidates condition,
      conditionIn (compiler.context candidates hostnames) id filter =
        .ok condition ∧
      ∀ truth, condition.HasTruth database [("server", row)] truth →
        (chosen.Selects database row ↔ truth = .yes) ∧
        (others.Selects database row ↔ truth = .no) := by
  obtain ⟨candidates, condition, declared, compiled, selects⟩ :=
    selects_single valid plain isRow requested isServertype reflexive assembled
  obtain ⟨otherCandidates, negated, declaredNot, compiledNot, selectsNot⟩ :=
    selects_single valid plain isRow requested isServertype
      reflexive assembledNot
  obtain rfl := Except.ok.inj (declared.symm.trans declaredNot)
  obtain rfl :=
    Except.ok.inj ((conditionIn_not compiled).symm.trans compiledNot)
  refine ⟨candidates, condition, compiled, ?_⟩
  intro truth holds
  constructor
  · exact selects.trans holds.iff_eq
  · exact selectsNot.trans (holds.negate.iff_eq.trans Truth.not_eq_yes)

end Selected

/-- A filter and its negation select no server both, and one of them selects
each server of a requested servertype whose value is not null: a value of a side
table never is. Where the column of the attribute is null, one of them does only
if the filter is true or false with all leaves unknown but those that ask for a
value. That a boolean is false is asked for as the negation of that it is
true. -/
theorem negation_complements_iff {declarations : List Declaration}
    (built : Schema.build declarations = .ok compiler.schema)
    (valid : compiler.settings.layout.check = .ok ())
    (plain : ∀ attr ∈ compiler.schema.attributes, Location.HasPlainColumn attr)
    (found : compiler.schema.findAttribute? id = some attr)
    {chosen others : Statement}
    (assembled : compiler.assemble servertypes [(id, filter)] hostnames =
      .ok (some chosen))
    (assembledNot : compiler.assemble servertypes
      [(id, .not filter)] hostnames = .ok (some others))
    (strict : database.IsStrict)
    (isRow : row ∈ database.rows (compiler.settings.layout.name .serverTable))
    {servertype : ServertypeId} (requested : servertype ∈ servertypes)
    (isServertype : row (compiler.settings.layout.name .servertypeColumn) =
      some (database.text servertype))
    (reflexive : database.compare "=" (database.text servertype)
      (database.text servertype) = .yes) :
    ¬ (chosen.Selects database row ∧ others.Selects database row) ∧
    (chosen.Selects database row ∨ others.Selects database row ↔
      (∀ special, attr.special = some special → row special.column ≠ none) ∨
        filter.fold compiler.settings.options.emptyAll.truth Leaf.nullTruth ≠
          .unknown) ∧
    (attr.isBoolean = true →
      compiler.assemble servertypes [(id, .equals (.boolean false))] hostnames =
        compiler.assemble servertypes [(id, .not (.equals (.boolean true)))]
          hostnames) := by
  obtain ⟨candidates, condition, compiled, selects⟩ :=
    selects_negation valid plain isRow requested isServertype reflexive
      assembled assembledNot
  obtain ⟨declared, location, foundDeclared, resolved, compiledFilter⟩ :=
    conditionIn_eq_ok.mp compiled
  obtain rfl := Option.some.inj (found.symm.trans foundDeclared)
  have isMember := Schema.mem_of_findAttribute? found
  have isScalar := Schema.build_special built isMember
  have validContext : (compiler.context candidates hostnames).layout.check =
    .ok () := valid
  -- whether a value is null decides which of the two truths the condition has
  have exactly (truth : Truth)
      (holds : condition.HasTruth database [("server", row)] truth) :
      ¬ (chosen.Selects database row ∧ others.Selects database row) ∧
      (chosen.Selects database row ∨ others.Selects database row ↔
        truth ≠ .unknown) := by
    obtain ⟨selectsChosen, selectsOthers⟩ := selects truth holds
    rw [selectsChosen, selectsOthers]
    cases truth <;> decide
  by_cases hasValue : ∀ special, attr.special = some special →
    row special.column ≠ none
  · obtain ⟨truth, holds, decided⟩ :=
      Filter.compile_hasTruth_decided strict validContext (plain attr isMember)
        isScalar resolved compiledFilter hasValue
    obtain ⟨notBoth, oneOf⟩ := exactly truth holds
    exact ⟨notBoth, oneOf.trans (iff_of_true decided (.inl hasValue)),
      assemble_false found⟩
  · have exists_null : ∃ special, attr.special = some special ∧
        row special.column = none := by
      simpa using hasValue
    obtain ⟨special, isSpecial, isNull⟩ := exists_null
    have holds :=
      Filter.compile_hasTruth_null strict validContext (plain attr isMember)
        (isScalar (by simp [Attribute.isSpecial, isSpecial])) isSpecial resolved
        compiledFilter isNull
    obtain ⟨notBoth, oneOf⟩ := exactly _ holds
    exact ⟨notBoth, oneOf.trans (or_iff_right hasValue).symm,
      assemble_false found⟩

/-- A server without a network is selected by the filter that it has none or a
given one, and not by the negation of that. -/
theorem negation_complements_iff_network :
    let network : Attribute :=
      { id := "intern_ip", type := .scalar .inet,
          special := some ⟨"intern_ip"⟩ }
    let compiler : Compiler :=
      ⟨⟨["vm"], [network], []⟩, { options := { dialect := .sqlite } }⟩
    let filter : Filter := .any [.leaf .empty, .equals (.string "10.0.0.1")]
    let inventory : Inventory PlainValue := ⟨[⟨1, "vm", none⟩], [], fun _ => []⟩
    let database := inventory.asDatabase {} (.definite fun _ => [])
    let row := Server.row {} database ⟨1, "vm", none⟩
    ∃ chosen others,
      compiler.assemble ["vm"] [("intern_ip", filter)] {} = .ok (some chosen) ∧
      compiler.assemble ["vm"] [("intern_ip", .not filter)] {} =
        .ok (some others) ∧
      (chosen.Selects database row ∨ others.Selects database row) ∧
      ¬ (chosen.Selects database row ∧ others.Selects database row) := by
  intro network compiler filter inventory database row
  have built : Schema.build [.servertype "vm", .attr network] =
    .ok compiler.schema := by cbv
  have assembled : ∃ chosen,
      compiler.assemble ["vm"] [("intern_ip", filter)] {} = .ok (some chosen) :=
    ⟨_, rfl⟩
  have assembledNot : ∃ others,
      compiler.assemble ["vm"] [("intern_ip", .not filter)] {} =
        .ok (some others) := ⟨_, rfl⟩
  obtain ⟨chosen, assembled⟩ := assembled
  obtain ⟨others, assembledNot⟩ := assembledNot
  have plain : ∀ attr ∈ compiler.schema.attributes,
      Location.HasPlainColumn attr := by
    intro attr member special isSpecial
    obtain rfl := List.mem_singleton.mp member
    obtain rfl := Option.some.inj isSpecial
    decide
  have isRow : row ∈ database.rows "server" := List.mem_singleton_self row
  obtain ⟨notBoth, oneOf, -⟩ :=
    negation_complements_iff built (by decide) plain rfl assembled assembledNot
      (Database.isStrict_definite _) isRow List.mem_cons_self rfl (by decide)
  exact ⟨chosen, others, assembled, assembledNot, oneOf.mpr (.inr (by decide)),
    notBoth⟩

/-- A server without a network is selected neither by a given network nor by the
negation of that. -/
theorem negation_misses_network :
    let network : Attribute :=
      { id := "intern_ip", type := .scalar .inet,
          special := some ⟨"intern_ip"⟩ }
    let compiler : Compiler :=
      ⟨⟨["vm"], [network], []⟩, { options := { dialect := .sqlite } }⟩
    let filter : Filter := .equals (.string "10.0.0.1")
    let inventory : Inventory PlainValue := ⟨[⟨1, "vm", none⟩], [], fun _ => []⟩
    let database := inventory.asDatabase {} (.definite fun _ => [])
    let row := Server.row {} database ⟨1, "vm", none⟩
    ∃ chosen others,
      compiler.assemble ["vm"] [("intern_ip", filter)] {} = .ok (some chosen) ∧
      compiler.assemble ["vm"] [("intern_ip", .not filter)] {} =
        .ok (some others) ∧
      row ∈ database.rows "server" ∧
      row "servertype_id" = some (database.text "vm") ∧
      ¬ (chosen.Selects database row ∨ others.Selects database row) := by
  intro network compiler filter inventory database row
  have assembled : ∃ chosen,
      compiler.assemble ["vm"] [("intern_ip", filter)] {} = .ok (some chosen) :=
    ⟨_, rfl⟩
  have assembledNot : ∃ others,
      compiler.assemble ["vm"] [("intern_ip", .not filter)] {} =
        .ok (some others) := ⟨_, rfl⟩
  obtain ⟨chosen, assembled⟩ := assembled
  obtain ⟨others, assembledNot⟩ := assembledNot
  have plain : ∀ attr ∈ compiler.schema.attributes,
      Location.HasPlainColumn attr := by
    intro attr member special isSpecial
    obtain rfl := List.mem_singleton.mp member
    obtain rfl := Option.some.inj isSpecial
    decide
  have isRow : row ∈ database.rows "server" := List.mem_singleton_self row
  have isServertype : row "servertype_id" = some (database.text "vm") := rfl
  obtain ⟨candidates, condition, compiled, selects⟩ :=
    selects_negation (by decide) plain isRow List.mem_cons_self isServertype
      (by decide) assembled assembledNot
  obtain ⟨attr, location, found, resolved, compiledFilter⟩ :=
    conditionIn_eq_ok.mp compiled
  obtain rfl : network = attr := Option.some.inj found
  have valid : Layout.check {} = .ok () := by decide
  have isUnknown : condition.HasTruth database [("server", row)] .unknown :=
    Filter.compile_hasTruth_null (Database.isStrict_definite _) valid
      (plain network List.mem_cons_self) rfl rfl resolved compiledFilter rfl
  obtain ⟨selectsChosen, selectsOthers⟩ := selects .unknown isUnknown
  refine ⟨chosen, others, assembled, assembledNot, isRow, isServertype, ?_⟩
  rw [selectsChosen, selectsOthers]
  decide

end Compiler

end AttributeQuery
