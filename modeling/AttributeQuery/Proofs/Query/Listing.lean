import AttributeQuery.Proofs.Query.Logic
import AttributeQuery.Proofs.Schema.Construction
import AttributeQuery.Proofs.Sql.Listing
import AttributeQuery.Query.Statement

/-!
# What statements list

The text of a statement is read as a listing of servers. Its condition is that
the servertype is one of the requested ones, and what the condition of each
filter states. So a statement selects the rows of servers of these servertypes
for which the conditions of all filters are true.
-/

namespace AttributeQuery

open Sql

namespace Statement

/-- What a statement lists, read from its text and its bound values. -/
def listing? (statement : Statement) : Option Listing := do
  let lexemes ← bindTokens statement.params 0 (tokens statement.sql)
  let assembly ← Assembly.readAll ⟨[], [], none⟩ lexemes
  Sql.listing? (← assembly.complete?)

/-- A statement selects a row of the table it lists, where its condition is
true. -/
def Selects {Value : Type} (statement : Statement) (database : Database Value)
    (row : Row Value) : Prop :=
  ∃ listing, statement.listing? = some listing ∧
    row ∈ database.rows listing.table ∧
    listing.condition.truth database [(listing.rowName, row)] = .yes

theorem listing?_of_reads {statement : Statement} {items : List Item}
    (reads : statement.body.Reads ⟨[], [], none⟩ ⟨[], items.reverse, none⟩
      .settled) :
    statement.listing? = Sql.listing? items := by
  obtain ⟨lexemes, spells, read⟩ := reads
  simp [listing?, sql, params, spells.bound, read, Assembly.complete?]

end Statement

section Truth

variable {Value : Type} {database : Database Value} {scopes : Scopes Value}
  {condition : Condition}

theorem Condition.HasTruth.iff_eq {truth other : Truth}
    (holds : condition.HasTruth database scopes truth) :
    condition.HasTruth database scopes other ↔ truth = other := by
  constructor
  · intro holdsOther
    exact holds.unique holdsOther
  · intro same
    rw [← same]
    exact holds

/-- What a condition states is all true when the condition is. -/
theorem Condition.States.allHold_iff {parts : List Expression}
    (states : condition.States parts) :
    Expression.AllHold database scopes parts ↔
      condition.HasTruth database scopes .yes := by
  have holds : condition.HasTruth database scopes _ := ⟨parts, states, rfl⟩
  rw [holds.iff_eq, Expression.all_eq_yes_iff_allHold]

end Truth

namespace Compiler

/-! ## Assembled statements -/

/-- The candidates are the requested servertypes. -/
theorem mem_candidates {compiler : Compiler}
    {servertypes distinct : List ServertypeId}
    (declared : compiler.candidates servertypes = .ok distinct)
    {servertype : ServertypeId} :
    servertype ∈ distinct ↔ servertype ∈ servertypes := by
  unfold candidates at declared
  dsimp only at declared
  split at declared
  next => simp at declared
  next => rw [← Except.ok.inj declared, Sorted.mem_distinct]

/-- A statement is a selection of candidates, restricted and ordered. -/
theorem assemble_eq_some {compiler : Compiler} {servertypes : List ServertypeId}
    {query : Query} {hostnames : HostnameIds} {statement : Statement}
    (assembled : compiler.assemble servertypes query hostnames =
      .ok (some statement)) :
    ∃ candidates body, compiler.candidates servertypes = .ok candidates ∧
      candidates ≠ [] ∧
      restrict (compiler.context candidates hostnames)
        (selection (compiler.context candidates hostnames)) query = .ok body ∧
      statement = ⟨compiler.settings.options.dialect,
        body.sql (order (compiler.context candidates hostnames))⟩ := by
  obtain ⟨candidates, declared, assembled⟩ := bind_eq_ok.mp assembled
  dsimp only at assembled
  split at assembled
  next => simp [pure, Except.pure] at assembled
  next isSome =>
    obtain ⟨body, restricted, returned⟩ := bind_eq_ok.mp assembled
    exact ⟨candidates, body, declared, by simpa using isSome, restricted,
      (Option.some.inj (pure_eq_ok.mp returned)).symm⟩

/-! ## Clauses -/

/-- The fields whose columns a statement lists. -/
def listedFields : List LayoutField :=
  [.serverIdColumn, .hostnameColumn, .networkColumn, .servertypeColumn,
    .projectColumn]

/-- The fields whose columns order what a statement lists. -/
def orderFields : List LayoutField :=
  [.hostnameColumn, .networkColumn, .serverIdColumn]

/-- Columns of the outer server. -/
def serverOperands (context : Context) (fields : List LayoutField) :
    List Operand :=
  fields.map fun field => .column "server" (context.named field)

/-- The items of columns of the outer server. -/
def serverItems (context : Context) (fields : List LayoutField) : List Item :=
  (fields.map fun field => .column "server" (context.named field)).intersperse
    .comma

/-- The items that stand before the conditions of a statement. -/
def selectionItems (context : Context) : List Item :=
  Item.word "SELECT" :: serverItems context listedFields ++ [Item.word "FROM",
    Item.word (context.named .serverTable), Item.word "AS", Item.word "server",
    Item.word "WHERE"]

/-- The items that stand after the conditions of a statement. -/
def orderItems (context : Context) : List Item :=
  .word "ORDER" :: .word "BY" :: serverItems context orderFields

variable {context : Context}

/-- The condition of a filter is compiled at the location of a declared
attribute. -/
theorem conditionIn_eq_ok {id : AttributeId} {filter : Filter}
    {condition : Condition} :
    conditionIn context id filter = .ok condition ↔
      ∃ attr location, context.schema.findAttribute? id = some attr ∧
        Location.resolve context attr = .ok location ∧
        filter.compile context attr location = .ok condition := by
  constructor
  · intro compiled
    obtain ⟨attr, required, located⟩ := bind_eq_ok.mp compiled
    obtain ⟨location, resolved, compiledFilter⟩ := bind_eq_ok.mp located
    exact ⟨attr, location,
      Schema.requireAttribute_eq_ok.mp (mapError_eq_ok.mp required), resolved,
      compiledFilter⟩
  · intro ⟨attr, location, found, resolved, compiled⟩
    have required : (context.schema.requireAttribute id).mapError
        CompileError.schema = .ok attr :=
      mapError_eq_ok.mpr (Schema.requireAttribute_eq_ok.mpr found)
    exact bind_eq_ok.mpr
      ⟨attr, required, bind_eq_ok.mpr ⟨location, resolved, compiled⟩⟩

/-- The condition of a filter can be read. -/
theorem conditionIn_states (valid : context.layout.check = .ok ())
    (plain : ∀ attr ∈ context.schema.attributes, Location.HasPlainColumn attr)
    {id : AttributeId} {filter : Filter} {condition : Condition}
    (compiled : conditionIn context id filter = .ok condition) :
    ∃ parts, condition.States parts := by
  obtain ⟨attr, location, found, resolved, compiledFilter⟩ :=
    conditionIn_eq_ok.mp compiled
  have isDeclared := Schema.mem_of_findAttribute? found
  exact Filter.compile_states valid (plain attr isDeclared) resolved
    compiledFilter

/-- The words that the text of a statement begins with, up to the
servertypes. -/
def selectionTokens (context : Context) : List Token :=
  [.word "SELECT", .word "server", .dot, .word (context.named .serverIdColumn),
    .comma, .word "server", .dot, .word (context.named .hostnameColumn), .comma,
    .word "server", .dot, .word (context.named .networkColumn), .comma,
    .word "server", .dot, .word (context.named .servertypeColumn), .comma,
    .word "server", .dot, .word (context.named .projectColumn), .word "FROM",
    .word (context.named .serverTable), .word "AS", .word "server",
    .word "WHERE", .word "server", .dot,
    .word (context.named .servertypeColumn), .word "IN", .opening]

theorem readAll_selectionTokens (context : Context) :
    Assembly.readAll ⟨[], [], none⟩ ((selectionTokens context).map .token) =
      some ⟨[.word "IN" :: .column "server" (context.named .servertypeColumn) ::
        (selectionItems context).reverse], [], none⟩ := rfl

/-- The selection is read up to the servertypes, which are its first
condition. -/
theorem selection_reads (valid : context.layout.check = .ok ())
    (isSome : context.servertypes ≠ []) :
    ∃ items,
      Conjoins items [Location.guardExpression context context.servertypes] ∧
      (selection context).Reads ⟨[], [], none⟩
        ⟨[], items.reverse ++ (selectionItems context).reverse, none⟩
        .settled := by
  obtain ⟨first, rest, servertypes⟩ := List.exists_cons_of_ne_nil isSome
  obtain ⟨items, readsList, readList⟩ :=
    Condition.paramList_isRead .none (.text first) (rest.map .text)
  have select : Spells "SELECT ".toList [.word "SELECT"] .free :=
    .of_run (by decide)
  have comma : Spells ", ".toList [.comma] .free := .of_run (by decide)
  have source : Spells " FROM ".toList [.word "FROM"] .free :=
    .of_run (by decide)
  have outer : Spells " AS server WHERE ".toList
    [.word "AS", .word "server", .word "WHERE"] .free := .of_run (by decide)
  have opening : Spells " IN (".toList [.word "IN", .opening] .free :=
    .of_run (by decide)
  have column (field : LayoutField) : Spells
      ("server." ++ context.named field).toList
      [.word "server", .dot, .word (context.named field)] .settled :=
    (Location.isColumn_server valid field).spells
  have columns :=
    (((((((((select.followedBy (.inl rfl) (column .serverIdColumn)).followedBy
      (.inr rfl) comma).followedBy (.inl rfl)
      (column .hostnameColumn)).followedBy (.inr rfl) comma).followedBy
      (.inl rfl) (column .networkColumn)).followedBy
      (.inr rfl) comma).followedBy (.inl rfl)
      (column .servertypeColumn)).followedBy (.inr rfl) comma).followedBy
      (.inl rfl) (column .projectColumn))
  have text := ((((columns.followedBy (.inr rfl) source).followedBy (.inl rfl)
    (.word (Location.isWord_named valid .serverTable))).followedBy (.inr rfl)
    outer).followedBy (.inl rfl) (column .servertypeColumn)).followedBy
    (.inr rfl) opening
  simp only [List.cons_append, List.nil_append] at text
  have opened := Condition.Reads.raw text rfl (readAll_selectionTokens context)
  have closed : (selection context).Reads ⟨[], [], none⟩
      ⟨[], .group (.of items) ::
        .word "IN" :: .column "server" (context.named .servertypeColumn) ::
          (selectionItems context).reverse, none⟩ .free := by
    rw [selection, servertypes]
    apply Condition.Reads.close
    simpa using opened.append (readsList _ _)
  have conjoins : Conjoins
      [.column "server" (context.named .servertypeColumn), .word "IN",
        .group (.of items)]
      [Location.guardExpression context context.servertypes] := by
    apply Conjoins.single
    · simp [Item.isWord]
    · rw [servertypes]
      exact negation?_inList readList _ _
  refine ⟨_, conjoins, ?_⟩
  simpa using closed.settle

/-- The filters of a query have conditions, one after the other. -/
abbrev AreConditions (context : Context) (query : Query)
    (conditions : List Condition) : Prop :=
  List.Forall₂
    (fun entry condition => conditionIn context entry.1 entry.2 = .ok condition)
    query conditions

/-- The conditions of filters are added to those that stand before them. -/
theorem restrict_reads (valid : context.layout.check = .ok ())
    (plain : ∀ attr ∈ context.schema.attributes, Location.HasPlainColumn attr)
    {query : Query} {statement body : Condition} {start : Assembly}
    {before items : List Item} {parts : List Expression}
    (conjoins : Conjoins items parts)
    (reads : statement.Reads start ⟨[], items.reverse ++ before, none⟩ .settled)
    (restricted : restrict context statement query = .ok body) :
    ∃ all conditions partLists, AreConditions context query conditions ∧
      Condition.StateAll conditions partLists ∧
      Conjoins all (parts ++ partLists.flatten) ∧
      body.Reads start ⟨[], all.reverse ++ before, none⟩ .settled := by
  induction query generalizing statement items parts with
  | nil =>
      obtain rfl := Except.ok.inj restricted
      exact ⟨items, [], [], .nil, .nil, by simpa using conjoins, reads⟩
  | cons entry rest ih =>
      obtain ⟨condition, compiled, later⟩ := bind_eq_ok.mp restricted
      obtain ⟨added, addedItems, readsAdded, conjoinsAdded⟩ :=
        conditionIn_states valid plain compiled
      have separator : Sql.Spells " AND ".toList [.word "AND"] .free :=
        .of_run (by decide)
      have separated : (statement.sql " AND ").Reads start
          ⟨[], .word "AND" :: (items.reverse ++ before), none⟩ .free :=
        reads.sql (.inr rfl) separator rfl rfl
      have extended := separated.append (readsAdded _ _)
      obtain ⟨all, conditions, partLists, areConditions, stated,
          conjoinsAll, readsAll⟩ :=
        ih (conjoins.append conjoinsAdded) (by simpa using extended) later
      exact ⟨all, condition :: conditions, added :: partLists,
        .cons compiled areConditions,
        .cons ⟨addedItems, readsAdded, conjoinsAdded⟩ stated, by
        simpa using conjoinsAll, readsAll⟩

/-- The order stands at the end of a statement. -/
theorem order_reads (valid : context.layout.check = .ok ()) {body : Condition}
    {start : Assembly} {before : List Item}
    (reads : body.Reads start ⟨[], before, none⟩ .settled) :
    (body.sql (order context)).Reads start
      ⟨[], (orderItems context).reverse ++ before, none⟩ .settled := by
  have first : Spells " ORDER BY server.".toList
    [.word "ORDER", .word "BY", .word "server", .dot] .free :=
    .of_run (by decide)
  have next : Spells ", server.".toList [.comma, .word "server", .dot] .free :=
    .of_run (by decide)
  have name (field : LayoutField) :=
    Spells.word (Location.isWord_named valid field)
  have text :=
    ((((first.followedBy (.inl rfl) (name .hostnameColumn)).followedBy
      (.inr rfl) next).followedBy (.inl rfl) (name .networkColumn)).followedBy
      (.inr rfl) next).followedBy (.inl rfl) (name .serverIdColumn)
  have apart : startsApart (order context).toList = true := by
    unfold order
    rw [String.append_assoc, String.append_assoc, String.append_assoc,
      String.append_assoc]
    exact startsApart_append rfl _
  exact reads.sql (.inr apart) text rfl rfl

/-! ## Listings -/

/-- A listing of the servers that meet a condition. -/
def serverListing (context : Context) (condition : Expression) : Listing where
  columns := serverOperands context listedFields
  table := context.named .serverTable
  rowName := "server"
  condition
  order := serverOperands context orderFields

theorem listing?_serverItems {items : List Item} {parts : List Expression}
    (conjoins : Conjoins items parts) :
    Sql.listing? (selectionItems context ++ items ++ orderItems context) =
      some (serverListing context (.allOf parts)) := by
  have noSource : ∀ item ∈ serverItems context listedFields,
      item.isWord "FROM" = false := by
    simp [serverItems, listedFields, Item.isWord]
  have noOrder : ∀ item ∈ serverItems context orderFields,
      item.isWord "ORDER" = false := by
    simp [serverItems, orderFields, Item.isWord]
  have readColumns : operands? (serverItems context listedFields) =
      some (serverOperands context listedFields) := rfl
  have readOrder : operands? (serverItems context orderFields) =
      some (serverOperands context orderFields) := rfl
  have clauses :=
    listing?_clauses (context.named .serverTable) "server" noSource readColumns
      conjoins noOrder readOrder
  simpa only [selectionItems, orderItems, serverListing, List.cons_append,
    List.append_assoc, List.nil_append] using clauses

/-- The servertype and the conditions of the filters restrict what is read of a
statement. -/
theorem assemble_reads {compiler : Compiler}
    (valid : compiler.settings.layout.check = .ok ())
    (plain : ∀ attr ∈ compiler.schema.attributes, Location.HasPlainColumn attr)
    {servertypes : List ServertypeId} {query : Query} {hostnames : HostnameIds}
    {statement : Statement}
    (assembled : compiler.assemble servertypes query hostnames =
      .ok (some statement)) :
    ∃ candidates items conditions partLists,
      compiler.candidates servertypes = .ok candidates ∧
      AreConditions (compiler.context candidates hostnames) query conditions ∧
      Condition.StateAll conditions partLists ∧
      Conjoins items
        (Location.guardExpression (compiler.context candidates hostnames)
          candidates :: partLists.flatten) ∧
      statement.body.Reads ⟨[], [], none⟩
        ⟨[], (selectionItems (compiler.context candidates hostnames) ++ items ++
          orderItems (compiler.context candidates hostnames)).reverse, none⟩
        .settled := by
  obtain ⟨candidates, body, declared, isSome, restricted, rfl⟩ :=
    assemble_eq_some assembled
  have validContext : (compiler.context candidates hostnames).layout.check =
    .ok () := valid
  obtain ⟨guardItems, conjoinsGuard, selected⟩ :=
    selection_reads validContext isSome
  obtain ⟨items, conditions, partLists, areConditions, stated,
      conjoins, reads⟩ :=
    restrict_reads validContext plain conjoinsGuard selected restricted
  have ordered := order_reads validContext reads
  exact ⟨candidates, items, conditions, partLists, declared, areConditions,
    stated, conjoins, by simpa using ordered⟩

/-- A statement lists the servers of the candidates that meet the conditions of
the filters. -/
theorem assemble_lists {compiler : Compiler}
    (valid : compiler.settings.layout.check = .ok ())
    (plain : ∀ attr ∈ compiler.schema.attributes, Location.HasPlainColumn attr)
    {servertypes : List ServertypeId} {query : Query} {hostnames : HostnameIds}
    {statement : Statement}
    (assembled : compiler.assemble servertypes query hostnames =
      .ok (some statement)) :
    ∃ candidates conditions partLists,
      compiler.candidates servertypes = .ok candidates ∧
      AreConditions (compiler.context candidates hostnames) query conditions ∧
      Condition.StateAll conditions partLists ∧
      statement.listing? =
          some (serverListing (compiler.context candidates hostnames)
            (.allOf (Location.guardExpression
              (compiler.context candidates hostnames) candidates ::
              partLists.flatten))) := by
  obtain ⟨candidates, items, conditions, partLists, declared, areConditions,
    stated, conjoins, reads⟩ := assemble_reads valid plain assembled
  refine ⟨candidates, conditions, partLists, declared,
    areConditions, stated, ?_⟩
  rw [Statement.listing?_of_reads reads]
  apply listing?_serverItems conjoins

/-! ## Selected rows -/

section Selected

variable {Value : Type} {database : Database Value} {scopes : Scopes Value}
  {query : Query}

/-- All that conditions state is true when each of them is. -/
theorem allHold_flatten_iff {conditions : List Condition}
    {partLists : List (List Expression)}
    (stated : Condition.StateAll conditions partLists) :
    Expression.AllHold database scopes partLists.flatten ↔
      ∀ condition ∈ conditions, condition.HasTruth database scopes .yes := by
  induction stated with
  | nil => simp
  | cons states _ ih =>
      rw [List.flatten_cons, Expression.allHold_append, ih, states.allHold_iff,
        List.forall_mem_cons]

/-- A statement selects a server of the candidates when the conditions of all
filters are true for it. -/
theorem selects_iff {compiler : Compiler}
    (valid : compiler.settings.layout.check = .ok ())
    (plain : ∀ attr ∈ compiler.schema.attributes, Location.HasPlainColumn attr)
    {servertypes : List ServertypeId} {hostnames : HostnameIds}
    {statement : Statement}
    (assembled : compiler.assemble servertypes query hostnames =
      .ok (some statement)) (database : Database Value) (row : Row Value) :
    ∃ candidates conditions, compiler.candidates servertypes = .ok candidates ∧
      AreConditions (compiler.context candidates hostnames) query conditions ∧
      (statement.Selects database row ↔
        row ∈ database.rows (compiler.settings.layout.name .serverTable) ∧
        (Location.guardExpression (compiler.context candidates hostnames)
          candidates).truth database [("server", row)] = .yes ∧
        ∀ condition ∈ conditions,
        condition.HasTruth database [("server", row)] .yes) := by
  obtain ⟨candidates, conditions, partLists, declared, areConditions,
      stated, listed⟩ :=
    assemble_lists valid plain assembled
  refine ⟨candidates, conditions, declared, areConditions, ?_⟩
  rw [← allHold_flatten_iff stated, ← Expression.allHold_cons,
    ← Expression.all_eq_yes_iff_allHold, ← Expression.truth_allOf]
  constructor
  · intro selects
    obtain ⟨listing, isListing, isRow, holds⟩ := selects
    obtain rfl := Option.some.inj (listed.symm.trans isListing)
    exact ⟨isRow, holds⟩
  · intro isSelected
    exact ⟨_, listed, isSelected.1, isSelected.2⟩

end Selected

end Compiler

end AttributeQuery
