import AttributeQuery.Proofs.Query.Listing
import AttributeQuery.Proofs.Sql.Numbering

/-!
# Statements and the conditions of their filters

A statement can be compiled as a whole, and the condition of a single filter can
be compiled by itself. The two agree: a statement has a condition for each of
its filters, in their order, which is the one compiled by itself. Only the
numbers of the placeholders differ, since they go on from the values that stand
before. Where there is no statement, the first filter without a condition says
why, unless a requested servertype is not declared.
-/

namespace AttributeQuery

open Sql

/-- The first failure of a computation on each element of a list is that of some
element, and the computation succeeds on those before it. -/
theorem findSome?_faultOf_eq_some {Failure α β : Type}
    {compute : α → Except Failure β} {values : List α} {failure : Failure} :
    (values.findSome? fun value => faultOf (compute value)) = some failure ↔
      ∃ before value after, values = before ++ value :: after ∧
        (∀ earlier ∈ before, ∃ result, compute earlier = .ok result) ∧
        compute value = .error failure := by
  rw [List.findSome?_eq_some_iff]
  simp only [faultOf_eq_none, faultOf_eq_some]
  constructor
  · rintro ⟨before, value, after, split, failed, succeed⟩
    exact ⟨before, value, after, split, succeed, failed⟩
  · rintro ⟨before, value, after, split, succeed, failed⟩
    exact ⟨before, value, after, split, failed, succeed⟩

/-! ## Requested servertypes -/

namespace Compiler

variable {compiler : Compiler} {servertypes : List ServertypeId}

/-- The smallest of the requested servertypes that are not declared. -/
structure IsFirstUndeclared (compiler : Compiler)
    (servertypes : List ServertypeId) (id : ServertypeId) : Prop where
  requested : id ∈ servertypes
  undeclared : compiler.schema.hasServertype id = false
  first : ∀ other ∈ servertypes, compiler.schema.hasServertype other = false →
    id ≤ other

theorem IsFirstUndeclared.eq {id other : ServertypeId}
    (first : compiler.IsFirstUndeclared servertypes id)
    (second : compiler.IsFirstUndeclared servertypes other) : id = other :=
  le_antisymm (first.first other second.requested second.undeclared)
    (second.first id first.requested first.undeclared)

theorem undeclared?_eq_none :
    compiler.undeclared? (Sorted.distinct servertypes) = none ↔
      ∀ id ∈ servertypes, compiler.schema.hasServertype id = true := by
  simp [undeclared?]

theorem isFirstUndeclared_of_undeclared? {id : ServertypeId}
    (found : compiler.undeclared? (Sorted.distinct servertypes) = some id) :
    compiler.IsFirstUndeclared servertypes id := by
  obtain ⟨undeclared, before, after, split, declared⟩ :=
    List.find?_eq_some_iff_append.mp found
  have sorted := Sorted.distinct_pairwise servertypes
  rw [split, List.pairwise_append, List.pairwise_cons] at sorted
  have isRequested (other : ServertypeId) :
      other ∈ servertypes ↔ other ∈ before ++ id :: after := by
    rw [← split, Sorted.mem_distinct]
  refine ⟨(isRequested id).mpr (by simp), by simpa using undeclared, ?_⟩
  intro other requested isUndeclared
  rcases List.mem_append.mp ((isRequested other).mp requested) with
    isBefore | isLater
  · have isDeclared := declared other isBefore
    simp [isUndeclared] at isDeclared
  · rcases List.mem_cons.mp isLater with rfl | isAfter
    · exact le_rfl
    · exact (sorted.2.1.1 other isAfter).le

theorem candidates_eq_ok {distinct : List ServertypeId} :
    compiler.candidates servertypes = .ok distinct ↔
      (∀ id ∈ servertypes, compiler.schema.hasServertype id = true) ∧
        Sorted.distinct servertypes = distinct := by
  rw [← undeclared?_eq_none]
  unfold candidates
  dsimp only
  split
  next id found => simp [found]
  next absent => simp [absent]

theorem candidates_eq_error {failure : CompileError} :
    compiler.candidates servertypes = .error failure ↔
      ∃ id, compiler.IsFirstUndeclared servertypes id ∧
        failure = .schema (.unknownServertype id) := by
  unfold candidates
  dsimp only
  split
  next id found =>
    have isFirst := isFirstUndeclared_of_undeclared? found
    constructor
    · intro failed
      exact ⟨id, isFirst, (Except.error.inj failed).symm⟩
    · rintro ⟨other, isOther, rfl⟩
      rw [isFirst.eq isOther]
  next absent =>
    constructor
    · intro failed
      cases failed
    · rintro ⟨other, isOther, -⟩
      have isDeclared := undeclared?_eq_none.mp absent other isOther.requested
      rw [isOther.undeclared] at isDeclared
      cases isDeclared

/-! ## Filters one after the other -/

section Restriction

variable {context : Context} {statement body : Condition} {query : Query}

/-- Filters are added when each of them has a condition. -/
theorem restrict_eq_ok : restrict context statement query = .ok body ↔
    ∃ conditions, AreConditions context query conditions ∧
      Condition.appendEach " AND " statement conditions = body := by
  induction query generalizing statement with
  | nil => simp [restrict, Condition.appendEach]
  | cons entry rest ih =>
      rw [restrict, bind_eq_ok]
      simp only [ih, AreConditions, List.forall₂_cons_left_iff]
      constructor
      · rintro ⟨condition, compiled, conditions, areConditions, isBody⟩
        exact ⟨condition :: conditions,
          ⟨condition, conditions, compiled, areConditions, rfl⟩, isBody⟩
      · rintro ⟨_,
          ⟨condition, conditions, compiled, areConditions, rfl⟩, isBody⟩
        exact ⟨condition, compiled, conditions, areConditions, isBody⟩

/-- Filters cannot be added for the reason why the first of them that has no
condition has none. -/
theorem faultOf_restrict : faultOf (restrict context statement query) =
    query.findSome? fun entry =>
      faultOf (conditionIn context entry.1 entry.2) := by
  induction query generalizing statement with
  | nil => rfl
  | cons entry rest ih =>
      rw [restrict, findSome?_cons_eq_or]
      exact faultOf_bind fun _ => ih

end Restriction

/-! ## Statements -/

/-- The text of a statement made from the texts of its servertypes and of its
conditions. -/
def listingText (layout : Layout) (servertypes conditions : List String) :
    String :=
  let column (field : LayoutField) : String := "server." ++ layout.name field
  "SELECT " ++ ", ".intercalate (listedFields.map column)
    ++ " FROM " ++ layout.name .serverTable
    ++ " AS server WHERE " ++ column .servertypeColumn
    ++ " IN (" ++ ", ".intercalate servertypes ++ ")"
    ++ String.join (conditions.map (" AND " ++ ·))
    ++ " ORDER BY " ++ ", ".intercalate (orderFields.map column)

variable {context : Context}

theorem params_selection :
    (selection context).params = context.servertypes.map .text := by
  rw [selection]
  simp only [Condition.params_sql, Condition.params_append,
    Condition.params_paramList, Condition.raw]
  rfl

/-- A selection to which conditions and the order of the rows are added is a
listing, however its values are written. -/
theorem text_statement (writer : Writer) (conditions : List Condition) :
    writer.text 0
      ((Condition.appendEach " AND " (selection context) conditions).sql
        (order context)).pieces =
      listingText context.layout
        (writer.texts 0
          ((context.servertypes.map SqlValue.text).map Condition.empty.param))
        (writer.texts context.servertypes.length conditions) := by
  have ordered : " ORDER BY server." = " ORDER BY " ++ "server." := rfl
  have separated : ", server." = ", " ++ "server." := rfl
  rw [Condition.text_sql, Writer.text_appendEach, params_selection,
    List.length_map, Nat.zero_add]
  unfold selection order listingText
  simp only [Condition.text_sql, Writer.text_appendCondition,
    Writer.text_paramList, Writer.text_raw, Condition.params_raw,
    List.length_nil, Nat.add_zero, listedFields, orderFields, List.map_cons,
    List.map_nil, String.intercalate_cons_cons, String.intercalate_singleton,
    Context.named, ordered, separated, String.append_assoc]

/-- With the candidates declared, a statement is the restricted selection of
them. -/
theorem assemble_of_candidates {query : Query} {hostnames : HostnameIds}
    {distinct : List ServertypeId}
    (declared : compiler.candidates servertypes = .ok distinct)
    (isSome : distinct ≠ []) :
    compiler.assemble servertypes query hostnames =
      (restrict (compiler.context distinct hostnames)
        (selection (compiler.context distinct hostnames)) query >>= fun body =>
          pure (some ⟨compiler.settings.options.dialect,
            body.sql (order (compiler.context distinct hostnames))⟩)) := by
  rw [assemble, declared]
  cases distinct with
  | nil => exact absurd rfl isSome
  | cons first rest => rfl

theorem compileCondition_of_candidates {id : AttributeId} {filter : Filter}
    {hostnames : HostnameIds} {distinct : List ServertypeId}
    (declared : compiler.candidates servertypes = .ok distinct) :
    compiler.compileCondition servertypes id filter hostnames =
      conditionIn (compiler.context distinct hostnames) id filter := by
  rw [compileCondition, declared]
  rfl

/-! ## Agreement -/

variable {query : Query} {hostnames : HostnameIds}

/-- A statement fails as its servertypes do, or else as the first of its filters
that cannot be compiled by itself. -/
theorem faultOf_assemble (isSome : servertypes ≠ []) :
    faultOf (compiler.assemble servertypes query hostnames) =
      (faultOf (compiler.candidates servertypes)).or
        (query.findSome? fun entry =>
          faultOf (compiler.compileCondition servertypes entry.1 entry.2
              hostnames)) := by
  cases declared : compiler.candidates servertypes with
  | error failure =>
      rw [assemble, declared]
      rfl
  | ok distinct =>
      have someDistinct : distinct ≠ [] := by
        obtain ⟨id, requested⟩ := List.exists_mem_of_ne_nil servertypes isSome
        exact List.ne_nil_of_mem ((mem_candidates declared).mpr requested)
      simp only [compileCondition_of_candidates declared]
      rw [assemble_of_candidates declared someDistinct, faultOf_bind_pure,
        faultOf_restrict]
      rfl

/-- The statement that lists the servers of some servertypes that meet some
conditions. -/
structure IsListing (compiler : Compiler) (distinct : List ServertypeId)
    (conditions : List Condition) (statement : Statement) : Prop where
  params : statement.params = distinct.map .text ++
    conditions.flatMap Condition.params
  sql : statement.sql =
    listingText compiler.settings.layout
      ((List.range' 1 distinct.length).map
        compiler.settings.options.dialect.placeholder)
      (Condition.renderAll compiler.settings.options.dialect
        distinct.length conditions)
  inlineSql : statement.inlineSql =
    listingText compiler.settings.layout
      (distinct.map fun id => (SqlValue.text id).inline)
      (conditions.map Condition.inline)

theorem isListing_of_appendEach (compiler : Compiler)
    (distinct : List ServertypeId) (hostnames : HostnameIds)
    (conditions : List Condition) :
    compiler.IsListing distinct conditions
      ⟨compiler.settings.options.dialect,
        (Condition.appendEach " AND "
          (selection (compiler.context distinct hostnames)) conditions).sql
        (order (compiler.context distinct hostnames))⟩ where
  params := by
    rw [Statement.params, Condition.params_sql, Condition.params_appendEach,
      params_selection]
    rfl
  sql := by
    rw [Statement.sql, Condition.render, ← Writer.text_placeholders,
      text_statement, Writer.texts_placeholders_values,
      Writer.texts_placeholders, List.length_map]
    rfl
  inlineSql := by
    rw [Statement.inlineSql, Condition.inline, ← Writer.text_literals 0,
      text_statement, Writer.texts_literals_values,
      Writer.texts_literals, List.map_map]
    rfl

/-- A statement is assembled from the conditions of its filters. -/
theorem isListing_of_assemble (isSome : servertypes ≠ [])
    {outcome : Option Statement}
    (assembled : compiler.assemble servertypes query hostnames = .ok outcome) :
    ∃ statement conditions, outcome = some statement ∧
      List.Forall₂ (fun entry condition =>
        compiler.compileCondition servertypes entry.1 entry.2 hostnames =
          .ok condition)
        query conditions ∧
      compiler.IsListing (Sorted.distinct servertypes) conditions
        statement := by
  obtain ⟨distinct, declared, -⟩ := bind_eq_ok.mp assembled
  have someDistinct : distinct ≠ [] := by
    obtain ⟨id, requested⟩ := List.exists_mem_of_ne_nil servertypes isSome
    exact List.ne_nil_of_mem ((mem_candidates declared).mpr requested)
  rw [assemble_of_candidates declared someDistinct] at assembled
  obtain ⟨body, restricted, returned⟩ := bind_eq_ok.mp assembled
  obtain ⟨conditions, areConditions, rfl⟩ := restrict_eq_ok.mp restricted
  obtain rfl := (candidates_eq_ok.mp declared).2
  refine ⟨_, conditions, (pure_eq_ok.mp returned).symm, ?_,
    isListing_of_appendEach compiler _ hostnames conditions⟩
  simpa only [compileCondition_of_candidates declared] using areConditions

/-- Assembling a statement and compiling its filters one by one agree on
success, on the error, on the bound values and on the texts. -/
theorem assemble_agrees_with_compileCondition (compiler : Compiler)
    {servertypes : List ServertypeId} (isSome : servertypes ≠ [])
    (query : Query) (hostnames : HostnameIds) :
    ((∃ outcome, compiler.assemble servertypes query hostnames = .ok outcome) ↔
      (∀ id ∈ servertypes, compiler.schema.hasServertype id = true) ∧
        ∀ entry ∈ query, ∃ condition,
          compiler.compileCondition servertypes entry.1 entry.2 hostnames =
            .ok condition) ∧
    (∀ failure, compiler.assemble servertypes query hostnames = .error failure ↔
      (∃ id, compiler.IsFirstUndeclared servertypes id ∧
          failure = .schema (.unknownServertype id)) ∨
        (∀ id ∈ servertypes, compiler.schema.hasServertype id = true) ∧
          ∃ before entry after, query = before ++ entry :: after ∧
            (∀ earlier ∈ before, ∃ condition,
              compiler.compileCondition servertypes earlier.1 earlier.2
                hostnames = .ok condition) ∧
            compiler.compileCondition servertypes entry.1 entry.2 hostnames =
              .error failure) ∧
    (∀ outcome, compiler.assemble servertypes query hostnames = .ok outcome →
      ∃ statement conditions, outcome = some statement ∧
        List.Forall₂ (fun entry condition =>
          compiler.compileCondition servertypes entry.1 entry.2 hostnames =
            .ok condition)
          query conditions ∧
        compiler.IsListing (Sorted.distinct servertypes) conditions statement) ∧
    (Sorted.distinct servertypes).Pairwise (· < ·) ∧
    (∀ id, id ∈ Sorted.distinct servertypes ↔ id ∈ servertypes) ∧
    ∀ shift conditions, Condition.renderAll .sqlite shift conditions =
      conditions.map (·.render .sqlite) := by
  have allDeclared :
      (∃ distinct, compiler.candidates servertypes = .ok distinct) ↔
      ∀ id ∈ servertypes, compiler.schema.hasServertype id = true := by
    simp [candidates_eq_ok]
  refine ⟨?_, fun failure => ?_, fun outcome => isListing_of_assemble isSome,
    Sorted.distinct_pairwise servertypes, fun id => Sorted.mem_distinct,
    Condition.renderAll_sqlite⟩
  · rw [← faultOf_eq_none, faultOf_assemble isSome, Option.or_eq_none_iff,
      List.findSome?_eq_none_iff]
    simp only [faultOf_eq_none, allDeclared]
  · rw [← faultOf_eq_some, faultOf_assemble isSome, Option.or_eq_some_iff,
      findSome?_faultOf_eq_some]
    simp only [faultOf_eq_none, faultOf_eq_some, allDeclared,
      candidates_eq_error]

/-- Two filters on one attribute of hypervisors and virtual machines, and
servertypes that are not declared. -/
theorem assemble_agrees_with_compileCondition_os :
    let attr : Attribute := { id := "os", type := .scalar .string }
    let compiler : Compiler :=
      { schema :=
        ⟨["hypervisor", "vm"], [attr],
          [⟨"hypervisor", "os", none⟩, ⟨"vm", "os", none⟩]⟩
        settings := {} }
    let query : Query :=
      [("os", .equals (.string "bookworm")), ("os", .leaf .empty)]
    (∃ statement conditions,
      compiler.assemble ["vm", "hypervisor", "vm"] query {} =
        .ok (some statement) ∧
      conditions.length = 2 ∧
      compiler.IsListing ["hypervisor", "vm"] conditions statement) ∧
    compiler.assemble ["vm", "switch", "desk"] query {} =
      .error (.schema (.unknownServertype "desk")) := by
  intro attr compiler query
  constructor
  · obtain ⟨succeeds, -, gives, -⟩ :=
      assemble_agrees_with_compileCondition compiler
        (show ["vm", "hypervisor", "vm"] ≠ [] by decide) query {}
    have compiles : ∀ entry ∈ query, ∃ condition, compiler.compileCondition
        ["vm", "hypervisor", "vm"] entry.1 entry.2 {} = .ok condition := by
      intro entry member
      simp only [query, List.mem_cons, List.not_mem_nil, or_false] at member
      rcases member with rfl | rfl
      · exact ⟨_, rfl⟩
      · exact ⟨_, rfl⟩
    obtain ⟨outcome, assembled⟩ := succeeds.mpr ⟨by decide, compiles⟩
    obtain ⟨statement, conditions, rfl, areConditions, isListing⟩ :=
      gives outcome assembled
    exact ⟨statement, conditions, assembled, areConditions.length_eq.symm,
      isListing⟩
  · obtain ⟨-, fails, -⟩ := assemble_agrees_with_compileCondition compiler
      (show ["vm", "switch", "desk"] ≠ [] by decide) query {}
    exact (fails _).mpr (.inl ⟨"desk", ⟨by decide, by decide, by decide⟩, rfl⟩)

end Compiler

end AttributeQuery
