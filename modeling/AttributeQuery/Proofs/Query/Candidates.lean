import AttributeQuery.Proofs.Query.Agreement
import AttributeQuery.Proofs.Query.Negation

/-!
# Statements for more servertypes

Asking for more servertypes does not change which servers of the others a
statement selects. The locations of attributes differ only in how they state the
holder, and this is stated alike for the servers that are asked for both times.
A server may not own rows that are left over, though, where only one statement
has a guard: rows of an attribute that the query reads, or of a link that leads
on from it, that is not bound to the servertype of the server.
-/

namespace AttributeQuery

open Sql

/-- A context for other servertypes. -/
def Context.withServertypes (context : Context)
    (servertypes : List ServertypeId) : Context :=
  { context with servertypes }

variable {Value : Type} {context : Context} {database : Database Value}
  {servertype : ServertypeId} {serverRow : Row Value} {attr : Attribute}
  {others : List ServertypeId}

namespace Location

theorem holderWithin_withServertypes (context : Context)
    (servertypes : List ServertypeId) (remaining depth : Nat) :
    holderWithin (context.withServertypes servertypes) remaining depth =
      holderWithin context remaining depth := by
  apply holderWithin_congr
  · exact .refl _
  · rfl
  · rfl

/-- The location of an attribute that is not stored does not depend on
servertypes. -/
theorem resolve_withServertypes (notStored : attr.table? = none) :
    resolve (context.withServertypes others) attr = resolve context attr := by
  apply resolve_congr
  · rfl
  · rfl
  · simp [notStored]

/-! ## Locations -/

/-- Conditions that the same rows of a table meet say the same about it. -/
theorem truth_hasRow_congr {scopes : Scopes Value} {table rowName : String}
    {parts otherParts : List Expression}
    (same : ∀ row ∈ database.rows table,
      (Expression.AllHold database ((rowName, row) :: scopes) parts ↔
        Expression.AllHold database ((rowName, row) :: scopes) otherParts)) :
    (Expression.hasRow table rowName (.allOf parts)).truth database scopes =
      (Expression.hasRow table rowName (.allOf otherParts)).truth
        database scopes := by
  simp only [Expression.truth, Expression.truth_allOf]
  apply congrArg Truth.ofBool
  rw [Bool.eq_iff_iff]
  simp only [List.any_eq_true, decide_eq_true_eq,
    Expression.all_eq_yes_iff_allHold]
  exact exists_congr fun row => and_congr_right (same row)

/-- A predicate is as true at one location as at another, on the row of a
server. -/
def SaysAlike (database : Database Value) (serverRow : Row Value)
    (location other : Location) (predicate : Predicate) : Prop :=
  ∃ truth,
    (location.located predicate).HasTruth database [("server", serverRow)]
    truth ∧
    (other.located predicate).HasTruth database [("server", serverRow)] truth

/-- Tables that the same rows of meet conditions say the same of predicates. -/
theorem existence_saysAlike {table valueColumn : String}
    {networkColumn : Option String}
    {conditions otherConditions : List Condition}
    {partLists otherLists : List (List Expression)} (isTable : IsWord table)
    (isSome : conditions ≠ []) (isSomeOther : otherConditions ≠ [])
    (stated : Condition.StateAll conditions partLists)
    (statedOther : Condition.StateAll otherConditions otherLists)
    (isColumn : ∀ subject, ∃ qualifier column,
      IsColumn (subjectColumn valueColumn networkColumn subject)
        qualifier column)
    (same : ∀ row ∈ database.rows table,
      (Expression.AllHold database [("sub", row), ("server", serverRow)]
        partLists.flatten ↔
        Expression.AllHold database [("sub", row), ("server", serverRow)]
          otherLists.flatten))
    {predicate : Predicate} (fits : predicate.template.IsReadable ∨
      predicate.template.isEmpty = true) :
    SaysAlike database serverRow
      (.existence table conditions valueColumn networkColumn)
      (.existence table otherConditions valueColumn networkColumn)
      predicate := by
  cases fits with
  | inl isReadable =>
      obtain ⟨nonempty, parts, states⟩ := isReadable
      obtain ⟨qualifier, column, isColumn⟩ := isColumn predicate.subject
      refine ⟨_,
        ⟨_, located_existence_states isTable isSome stated isColumn nonempty
          states, rfl⟩,
        _, located_existence_states isTable isSomeOther statedOther isColumn
          nonempty states, ?_⟩
      apply congrArg (Truth.all [·])
      apply truth_hasRow_congr
      intro row isRow
      rw [Expression.allHold_append, Expression.allHold_append, same row isRow]
  | inr isEmpty =>
      refine ⟨_,
        ⟨_, located_existence_empty isTable isSome stated isEmpty, rfl⟩,
        _, located_existence_empty isTable isSomeOther statedOther isEmpty, ?_⟩
      exact congrArg (Truth.all [·])
        (truth_hasRow_congr fun row isRow => (same row isRow).symm)

/-- Of an attribute that is stored, a server owns no rows that are left over
where the guards of two groups differ. -/
def StoresNoLeftovers (schema : Schema) (layout : Layout)
    (database : Database Value) (serverRow : Row Value)
    (servertype : ServertypeId) (group other : Set ServertypeId)
    (attr : Attribute) : Prop :=
  attr.special = none → attr.table? ≠ none →
    HasNoLeftovers schema layout database serverRow servertype
      group other attr.id

section Agreement

variable (valid : context.layout.check = .ok ())
  (distinct : context.schema.HasDistinctBindings)
  (isServer : IsServerOf context database servertype serverRow)
  (asked : servertype ∈ context.servertypes) (askedOther : servertype ∈ others)
  (found : context.schema.findAttribute? attr.id = some attr)

include valid distinct isServer asked askedOther found

/-- The rows of a stored attribute are the same for more servertypes. -/
theorem stored_saysAlike {table : LayoutField}
    (isStored : attr.table? = some table)
    (noLeftovers : HasNoLeftovers context.schema context.layout database
      serverRow servertype (groupOf context.servertypes)
      (groupOf others) attr.id) {location other : Location}
    (located : stored context attr (context.named table) = .ok location)
    (locatedOther : stored (context.withServertypes others) attr
      (context.named table) = .ok other)
    {predicate : Predicate}
    (fits : predicate.template.IsReadable ∨ predicate.template.isEmpty = true) :
    SaysAlike database serverRow location other predicate := by
  obtain ⟨owner, held, rfl⟩ := stored_eq_ok located
  obtain ⟨otherOwner, heldOther, rfl⟩ := stored_eq_ok locatedOther
  rw [holderWithin_withServertypes] at heldOther
  obtain ⟨parts, states⟩ :=
    holderWithin_isReadable valid _ _ isColumn_subOwner held
  obtain ⟨otherParts, statesOther⟩ :=
    holderWithin_isReadable valid _ _ isColumn_subOwner heldOther
  have isAttribute := columnIs_states isColumn_subAttribute attr.id
  have isColumn (subject : Subject) : ∃ qualifier column,
      IsColumn (subjectColumn "sub.value" none subject) qualifier column := by
    cases subject with
    | value => exact ⟨_, _, isColumn_subValue⟩
    | network => exact ⟨_, _, isColumn_subValue⟩
  apply existence_saysAlike (isWord_named valid table) (by simp) (by simp)
    (.cons states (.cons isAttribute .nil))
    (.cons statesOther (.cons isAttribute .nil)) isColumn _ fits
  intro row isRow
  simp only [List.flatten_cons, List.flatten_nil, List.append_nil,
    Expression.allHold_append, Expression.allHold_cons,
    Expression.allHold_nil, and_true]
  refine and_congr_left fun isOfAttribute => ?_
  rw [states.allHold_iff, statesOther.allHold_iff]
  rw [Expression.truth, Operand.compared, Operand.value,
    read_sub] at isOfAttribute
  apply holderWithin_agrees valid distinct isServer _ 0 isColumn_subOwner
    (fun later _ => ne_linkName (by decide) later) asked askedOther held
    heldOther (sees_sub row serverRow)
  rw [read_sub]
  exact ⟨⟨attr, table, row, found, isStored, isRow, isOfAttribute, rfl⟩,
    noLeftovers⟩

/-- An attribute has the same location for more servertypes, or one that says
the same of all predicates. -/
theorem resolve_saysAlike
    (noLeftovers : StoresNoLeftovers context.schema context.layout database
      serverRow servertype (groupOf context.servertypes) (groupOf others) attr)
    {location other : Location} (resolved : resolve context attr = .ok location)
    (resolvedOther : resolve (context.withServertypes others) attr =
      .ok other) :
    location = other ∨ ∀ predicate : Predicate,
      predicate.template.IsReadable ∨ predicate.template.isEmpty = true →
        SaysAlike database serverRow location other predicate := by
  cases isSpecial : attr.special with
  | some special =>
      simp only [resolve, isSpecial] at resolved resolvedOther
      exact .inl (Except.ok.inj (resolved.symm.trans resolvedOther))
  | none =>
      cases isStored : attr.table? with
      | some table =>
          rw [resolve_eq_stored isSpecial isStored] at resolved resolvedOther
          exact .inr fun _ =>
            stored_saysAlike valid distinct isServer asked askedOther found
              isStored (noLeftovers isSpecial (by simp [isStored]))
              resolved resolvedOther
      | none =>
          rw [resolve_withServertypes isStored] at resolvedOther
          exact .inl (Except.ok.inj (resolved.symm.trans resolvedOther))

/-- The leaves of an attribute have the same truths for more servertypes. -/
theorem leavesHave_withServertypes
    (noLeftovers : StoresNoLeftovers context.schema context.layout database
      serverRow servertype (groupOf context.servertypes) (groupOf others) attr)
    {location other : Location} (resolved : resolve context attr = .ok location)
    (resolvedOther : resolve (context.withServertypes others) attr = .ok other)
    {leafTruth : Leaf → Truth}
    (leaves : Filter.LeavesHave database [("server", serverRow)] context attr
      location leafTruth) :
    Filter.LeavesHave database [("server", serverRow)]
      (context.withServertypes others) attr other leafTruth := by
  intro leaf predicate builtOther
  -- what a leaf says does not depend on servertypes
  have built : Predicate.ofLeaf context attr leaf = .ok predicate := builtOther
  have holds := leaves leaf predicate built
  cases resolve_saysAlike valid distinct isServer asked askedOther found
      noLeftovers resolved resolvedOther with
  | inl same => rwa [← same]
  | inr saysAlike =>
      have fits := (Predicate.ofLeaf_isReadable valid built).imp_right And.left
      obtain ⟨truth, located, locatedOther⟩ := saysAlike predicate fits
      rw [holds.unique (Filter.apply_hasTruth located)]
      exact Filter.apply_hasTruth locatedOther

end Agreement

/-! ## Rows with a value -/

section Rows

variable {location : Location} (valid : context.layout.check = .ok ())

include valid

/-- A value is found for a server where a row of the table has it of which the
owner is stated to hold the attribute for the server. -/
theorem stored_equality_states (database : Database Value)
    (serverRow : Row Value) {table : LayoutField}
    (found : stored context attr (context.named table) = .ok location)
    (value : SqlValue) :
    ∃ owner,
      holderWithin context context.options.maxRelationDepth 0 attr.id
        "sub.server_id" context.servertypes = .ok owner ∧
      ∃ parts,
        (location.apply (Predicate.comparedBy "=" value none)).States parts ∧
        (Expression.AllHold database [("server", serverRow)] parts ↔
          ∃ row ∈ database.rows (context.named table),
            owner.HasTruth database [("sub", row), ("server", serverRow)] .yes ∧
            database.Equates (row "attribute_id")
              (some (database.text attr.id)) ∧
            database.Equates (row "value") (some (database.bound value))) := by
  obtain ⟨owner, held, rfl⟩ := stored_eq_ok found
  obtain ⟨parts, states⟩ :=
    holderWithin_isReadable valid _ _ isColumn_subOwner held
  have isAttribute := columnIs_states isColumn_subAttribute attr.id
  have isColumn : IsColumn (subjectColumn "sub.value" none .value)
      "sub" "value" :=
    isColumn_subValue
  have located := located_existence_states (isWord_named valid table) (by simp)
    (.cons states (.cons isAttribute .nil)) isColumn rfl
    (Predicate.equality_states .none value)
  refine ⟨owner, held, _, located, ?_⟩
  rw [Expression.allHold_hasRow]
  refine exists_congr fun row => and_congr_right fun _ => ?_
  simp only [List.flatten_cons, List.flatten_nil, List.append_nil,
    Expression.allHold_append, Expression.allHold_cons, Expression.allHold_nil,
    and_true, states.allHold_iff, Expression.truth, Operand.compared,
    Operand.value, Operand.boundAs, read_sub, and_assoc]
  rfl

variable (distinct : context.schema.HasDistinctBindings)
  (isServer : IsServerOf context database servertype serverRow)

include distinct isServer

/-- A text is found for a server that the attribute is not bound to where a row
that the server owns has it, if there is no guard. -/
theorem stored_text_hasTruth {table : LayoutField}
    (found : stored context attr (context.named table) = .ok location)
    (candidate : servertype ∈ context.servertypes)
    (unbound : context.schema.binding? servertype attr.id = none)
    {text : String} :
    (location.apply (Predicate.comparedBy "=" (.text text) none)).HasTruth
      database [("server", serverRow)] .yes ↔
      (∀ binding ∈ bindingsOf context attr.id context.servertypes,
        binding.relatedVia = none) ∧
      ∃ row ∈ database.rows (context.named table),
        database.Equates (serverRow (context.named .serverIdColumn))
          (row "server_id") ∧
        database.Equates (row "attribute_id") (some (database.text attr.id)) ∧
        database.Equates (row "value") (some (database.text text)) := by
  obtain ⟨owner, held, parts, states, holds⟩ :=
    stored_equality_states valid database serverRow found (.text text)
  rw [← states.allHold_iff, holds, ← exists_and_left]
  refine exists_congr fun row => ?_
  rw [holderWithin_unbound valid distinct isServer (sees_sub row serverRow)
    isColumn_subOwner held candidate unbound, read_sub, and_assoc,
    and_left_comm]
  rfl

end Rows

end Location

/-- The condition of a text of a string attribute compares the values with
it. -/
theorem Filter.compile_text_eq_ok {location : Location}
    (type : attr.type = .scalar .string) {text : String} {condition : Condition}
    (compiled : (Filter.equals (.string text)).compile context attr location =
      .ok condition) :
    condition =
      location.apply (Predicate.comparedBy "=" (.text text) none) := by
  obtain ⟨predicate, built, returned⟩ := bind_eq_ok.mp compiled
  have notBoolean : attr.isBoolean = false := by
    simp [Attribute.isBoolean, type]
  rw [ofLeaf_equals notBoolean] at built
  obtain ⟨value, isOperand, rfl⟩ := Predicate.ofEquality_eq_ok built
  have noCast : Predicate.operandCast context attr = none := by
    rw [Predicate.operandCast, type]
    cases context.dialect <;> rfl
  simp only [Predicate.operand, type] at isOperand
  obtain ⟨encoded, isEncoded, isReturned⟩ := bind_eq_ok.mp isOperand
  obtain ⟨rfl, -⟩ := Prod.mk.inj (pure_eq_ok.mp isReturned)
  obtain ⟨_, -, isText⟩ := bind_eq_ok.mp isEncoded
  rw [← pure_eq_ok.mp returned, noCast, pure_eq_ok.mp isText]

namespace Compiler

section Agreement

variable (valid : context.layout.check = .ok ())
  (distinct : context.schema.HasDistinctBindings)
  (plain : ∀ attr ∈ context.schema.attributes, Location.HasPlainColumn attr)
  (isServer : Location.IsServerOf context database servertype serverRow)
  (asked : servertype ∈ context.servertypes) (askedOther : servertype ∈ others)

include valid distinct plain isServer asked askedOther

/-- The condition of a filter is as true for more servertypes. -/
theorem conditionIn_withServertypes {id : AttributeId} {filter : Filter}
    (noLeftovers : filter.leaves ≠ [] → ∀ attr,
      context.schema.findAttribute? id = some attr →
      Location.StoresNoLeftovers context.schema context.layout database
        serverRow servertype (Location.groupOf context.servertypes)
        (Location.groupOf others) attr)
    {condition other : Condition}
    (compiled : conditionIn context id filter = .ok condition)
    (compiledOther : conditionIn (context.withServertypes others) id filter =
      .ok other) :
    ∃ truth, condition.HasTruth database [("server", serverRow)] truth ∧
      other.HasTruth database [("server", serverRow)] truth := by
  obtain ⟨attr, location, found, resolved, compiledFilter⟩ :=
    conditionIn_eq_ok.mp compiled
  obtain ⟨attrOther, locationOther, foundOther, resolvedOther,
      compiledFilterOther⟩ :=
    conditionIn_eq_ok.mp compiledOther
  obtain rfl := Option.some.inj (found.symm.trans foundOther)
  have isPlain := plain attr (Schema.mem_of_findAttribute? found)
  have validOther : (context.withServertypes others).layout.check = .ok () :=
    valid
  obtain ⟨leafTruth, leaves⟩ :=
    Filter.exists_leavesHave valid isPlain resolved database
      [("server", serverRow)]
  have holds :=
    Filter.compile_hasTruth (Location.resolve_isReadable valid isPlain resolved)
      leaves filter compiledFilter
  have readableOther : locationOther.IsReadable :=
    Location.resolve_isReadable validOther isPlain resolvedOther
  by_cases noLeaf : filter.leaves = []
  · -- without leaves there is nothing that the locations could say
    obtain ⟨otherTruth, leavesOther⟩ :=
      Filter.exists_leavesHave validOther isPlain resolvedOther database
        [("server", serverRow)]
    have same : filter.fold context.options.emptyAll.truth leafTruth =
        filter.fold context.options.emptyAll.truth otherTruth :=
      Filter.fold_congr filter (by simp [noLeaf])
    rw [same] at holds
    exact ⟨_, holds,
      Filter.compile_hasTruth readableOther leavesOther filter
        compiledFilterOther⟩
  · have isItself : context.schema.findAttribute? attr.id = some attr := by
      obtain rfl : attr.id = id := by simpa using List.find?_some found
      exact found
    have leavesOther :=
      Location.leavesHave_withServertypes valid distinct isServer asked
        askedOther isItself (noLeftovers noLeaf attr found) resolved
        resolvedOther leaves
    exact ⟨_, holds,
      Filter.compile_hasTruth readableOther leavesOther filter
        compiledFilterOther⟩

/-- The conditions of a query are all true when they are for more
servertypes. -/
theorem areConditions_withServertypes {query : Query}
    (noLeftovers : ∀ attr, query.Concerns context.schema attr →
      Location.StoresNoLeftovers context.schema context.layout database
        serverRow servertype (Location.groupOf context.servertypes)
        (Location.groupOf others) attr)
    {conditions otherConditions : List Condition}
    (areConditions : AreConditions context query conditions)
    (areOthers : AreConditions (context.withServertypes others) query
      otherConditions) :
    (∀ condition ∈ conditions,
      condition.HasTruth database [("server", serverRow)] .yes) ↔
      ∀ condition ∈ otherConditions,
        condition.HasTruth database [("server", serverRow)] .yes := by
  induction areConditions generalizing otherConditions with
  | nil =>
      cases areOthers
      exact Iff.rfl
  | @cons entry condition query _ compiled _ ih =>
      cases areOthers with
      | cons compiledOther rest =>
          have concernsFirst : entry.2.leaves ≠ [] → ∀ attr,
              context.schema.findAttribute? entry.1 = some attr →
              Query.Concerns context.schema (entry :: query) attr :=
            fun hasLeaf attr found =>
              ⟨entry, List.mem_cons_self, hasLeaf, found⟩
          have concernsLater : ∀ attr,
              Query.Concerns context.schema query attr →
              Query.Concerns context.schema (entry :: query) attr :=
            fun attr ⟨later, member, concerns⟩ =>
              ⟨later, List.mem_cons_of_mem _ member, concerns⟩
          obtain ⟨truth, holds, holdsOther⟩ :=
            conditionIn_withServertypes valid distinct plain isServer asked
              askedOther
              (fun hasLeaf attr found =>
                noLeftovers attr (concernsFirst hasLeaf attr found))
                  compiled compiledOther
          rw [List.forall_mem_cons, List.forall_mem_cons,
            ih (fun attr concerns =>
              noLeftovers attr (concernsLater attr concerns)) rest,
            holds.iff_eq, holdsOther.iff_eq]

end Agreement

variable {compiler : Compiler} {servertypes : List ServertypeId} {query : Query}
  {hostnames : HostnameIds}

/-- Whichever servertypes are asked for beside that of a server, a query selects
it or not: the answer for one servertype does not depend on the others. Rows may
be left over in the tables, for attributes that servertypes do not bind, and
those of other servers never count. Of the attributes that the query reads, and
of the links that lead on from them, the server itself owns none where there is
a guard for one of the two groups of servertypes only. -/
theorem selects_iff_of_requested {declarations : List Declaration}
    (built : Schema.build declarations = .ok compiler.schema)
    (valid : compiler.settings.layout.check = .ok ())
    (plain : ∀ attr ∈ compiler.schema.attributes, Location.HasPlainColumn attr)
    {chosen other : Statement}
    (assembled : compiler.assemble servertypes query hostnames =
      .ok (some chosen))
    (assembledOther : compiler.assemble others query hostnames =
      .ok (some other))
    (requested : servertype ∈ servertypes)
    (requestedOther : servertype ∈ others)
    (isServertype : serverRow
      (compiler.settings.layout.name .servertypeColumn) =
      some (database.text servertype))
    (isTold : ∀ text,
      database.compare "=" (database.text servertype) (database.text text) =
        .yes ↔ servertype = text)
    (noLeftovers : ∀ attr, query.Concerns compiler.schema attr →
      Location.StoresNoLeftovers compiler.schema compiler.settings.layout
        database serverRow servertype (Location.groupOf servertypes)
        (Location.groupOf others) attr) :
    chosen.Selects database serverRow ↔ other.Selects database serverRow := by
  obtain ⟨candidates, conditions, declared, areConditions, selects⟩ :=
    selects_iff valid plain assembled database serverRow
  obtain ⟨otherCandidates, otherConditions, declaredOther, areOthers,
      selectsOther⟩ :=
    selects_iff valid plain assembledOther database serverRow
  let context := compiler.context candidates hostnames
  have isServer (candidates : List ServertypeId) : Location.IsServerOf
      (compiler.context candidates hostnames) database servertype serverRow :=
    ⟨isServertype, isTold⟩
  have sees : Location.Sees [("server", serverRow)] serverRow :=
    fun column => Scopes.read_cons_self serverRow [] column
  have asked : servertype ∈ candidates :=
    (mem_candidates declared).mpr requested
  have askedOther : servertype ∈ otherCandidates :=
    (mem_candidates declaredOther).mpr requestedOther
  have sameGroup : Location.groupOf servertypes =
      Location.groupOf candidates := by
    ext candidate
    exact (mem_candidates declared).symm
  have sameOther : Location.groupOf others =
      Location.groupOf otherCandidates := by
    ext candidate
    exact (mem_candidates declaredOther).symm
  rw [sameGroup, sameOther] at noLeftovers
  have validContext : context.layout.check = .ok () := valid
  have same := areConditions_withServertypes validContext
    (Schema.build_distinct built) plain (isServer candidates) asked askedOther
    noLeftovers areConditions areOthers
  rw [selects, selectsOther, same,
    Location.truth_guardExpression (isServer candidates) sees,
    Location.truth_guardExpression (isServer otherCandidates) sees]
  simp [asked, askedOther]

/-- A rack with a note that is left over is not selected by it when virtual
machines are asked for, which have the notes of the machines they run on,
whether containers are asked for as well or not. A label that is left over makes
no difference, although only the labels of containers are those of the machines
they run on. -/
theorem selects_iff_of_requested_rack :
    let host : Attribute :=
      { id := "host", type := .hostname (some "hypervisor") }
    let label : Attribute := { id := "label", type := .scalar .string }
    let note : Attribute := { id := "note", type := .scalar .string }
    let schema : Schema :=
      ⟨["container", "hypervisor", "rack", "vm"], [host, label, note],
        [⟨"container", "host", none⟩, ⟨"container", "label", some "host"⟩,
          ⟨"hypervisor", "label", none⟩, ⟨"hypervisor", "note", none⟩,
          ⟨"vm", "host", none⟩, ⟨"vm", "note", some "host"⟩]⟩
    let compiler : Compiler := ⟨schema, {}⟩
    let query : Query := [("note", .equals (.string "spare"))]
    let inventory : Inventory PlainValue :=
      { servers := [⟨1, "rack", none⟩]
        relations := []
        values
          | .string => [⟨1, "note", .text "spare"⟩, ⟨1, "label", .text "r1"⟩]
          | _ => [] }
    let database := inventory.asDatabase {} (.plain fun _ => [])
    let row := Server.row {} database ⟨1, "rack", none⟩
    ∃ chosen other,
      compiler.assemble ["hypervisor", "rack", "vm"] query {} =
        .ok (some chosen) ∧
      compiler.assemble ["container", "hypervisor", "rack", "vm"] query {} =
        .ok (some other) ∧
      (chosen.Selects database row ↔ other.Selects database row) := by
  intro host label note schema compiler query inventory database row
  have built : Schema.build
      [.servertype "vm", .servertype "rack", .servertype "hypervisor",
        .servertype "container", .attr host, .attr label, .attr note,
        .binding ⟨"vm", "note", some "host"⟩, .binding ⟨"vm", "host", none⟩,
        .binding ⟨"hypervisor", "note", none⟩,
        .binding ⟨"hypervisor", "label", none⟩,
        .binding ⟨"container", "label", some "host"⟩,
        .binding ⟨"container", "host", none⟩] = .ok schema := by cbv
  have plain : ∀ attr ∈ schema.attributes, Location.HasPlainColumn attr := by
    simp [schema, host, label, note, Location.HasPlainColumn]
  have assembled : ∃ chosen,
      compiler.assemble ["hypervisor", "rack", "vm"] query {} =
        .ok (some chosen) := ⟨_, rfl⟩
  have assembledOther : ∃ other,
      compiler.assemble ["container", "hypervisor", "rack", "vm"] query {} =
        .ok (some other) :=
    ⟨_, rfl⟩
  obtain ⟨chosen, assembled⟩ := assembled
  obtain ⟨other, assembledOther⟩ := assembledOther
  have isTold (text : String) : database.compare "=" (database.text "rack")
      (database.text text) = .yes ↔ "rack" = text := by
    simp [database, Inventory.asDatabase, Database.plain]
  have noLeftovers : ∀ attr, query.Concerns schema attr →
      Location.StoresNoLeftovers schema {} database row "rack"
        (Location.groupOf ["hypervisor", "rack", "vm"])
        (Location.groupOf ["container", "hypervisor", "rack", "vm"]) attr := by
    rintro attr ⟨entry, member, -, found⟩ - - last owner differ
    obtain rfl := List.mem_singleton.mp member
    obtain rfl : note = attr := Option.some.inj found
    cases differ with
    | through bound => cases bound
    | here _ differ =>
        -- virtual machines are in both groups
        have isBound : ⟨"vm", "note", some "host"⟩ ∈ schema.bindings "note" :=
          List.mem_cons_of_mem _ List.mem_cons_self
        have guarded (group : Set ServertypeId) (isAsked : "vm" ∈ group) :
            ¬ schema.AllBindDirectly group "note" := by
          intro direct
          cases direct _ isBound isAsked
        exact absurd (iff_of_false (guarded _ (by simp [Location.groupOf]))
          (guarded _ (by simp [Location.groupOf]))) differ
  exact ⟨chosen, other, assembled, assembledOther,
    selects_iff_of_requested built (by decide) plain assembled assembledOther
      (List.mem_cons_of_mem _ List.mem_cons_self)
      (List.mem_cons_of_mem _ (List.mem_cons_of_mem _ List.mem_cons_self)) rfl
      isTold noLeftovers⟩

/-! ## Rows that are left over -/

/-- A server is selected by a text of an attribute that is not bound to its
servertype if it owns a row with that text all the same, and the servertypes
that are asked for all carry the attribute themselves if they have it. -/
theorem selects_unbound_iff {declarations : List Declaration}
    (built : Schema.build declarations = .ok compiler.schema)
    (valid : compiler.settings.layout.check = .ok ())
    (plain : ∀ attr ∈ compiler.schema.attributes, Location.HasPlainColumn attr)
    (found : compiler.schema.findAttribute? attr.id = some attr)
    (type : attr.type = .scalar .string) (notSpecial : attr.special = none)
    {text : String} {statement : Statement}
    (assembled : compiler.assemble servertypes
      [(attr.id, .equals (.string text))] hostnames = .ok (some statement))
    (isRow : serverRow ∈
      database.rows (compiler.settings.layout.name .serverTable))
    (requested : servertype ∈ servertypes)
    (isServertype : serverRow
      (compiler.settings.layout.name .servertypeColumn) =
      some (database.text servertype))
    (isTold : ∀ text,
      database.compare "=" (database.text servertype) (database.text text) =
        .yes ↔ servertype = text)
    (unbound : compiler.schema.binding? servertype attr.id = none) :
    statement.Selects database serverRow ↔
      (∀ binding ∈ compiler.schema.bindings attr.id,
        binding.servertype ∈ servertypes →
        binding.relatedVia = none) ∧
      ∃ row ∈ database.rows (compiler.settings.layout.name
        (.sideTable .string)),
        database.Equates
          (serverRow (compiler.settings.layout.name .serverIdColumn))
          (row "server_id") ∧
        database.Equates (row "attribute_id") (some (database.text attr.id)) ∧
        database.Equates (row "value") (some (database.text text)) := by
  obtain ⟨candidates, condition, declared, compiled, selects⟩ :=
    selects_single valid plain isRow requested isServertype
      ((isTold servertype).mpr rfl) assembled
  obtain ⟨attr, location, foundHere, resolved, compiledFilter⟩ :=
    conditionIn_eq_ok.mp compiled
  obtain rfl := Option.some.inj (found.symm.trans foundHere)
  obtain rfl := Filter.compile_text_eq_ok type compiledFilter
  have isStored : attr.table? = some (.sideTable .string) := by
    simp [Attribute.table?, type, Attribute.isSpecial, notSpecial]
  rw [Location.resolve_eq_stored notSpecial isStored] at resolved
  let context := compiler.context candidates hostnames
  have validContext : context.layout.check = .ok () := valid
  have distinct : context.schema.HasDistinctBindings :=
    Schema.build_distinct built
  have isServer : Location.IsServerOf context database servertype serverRow :=
    ⟨isServertype, isTold⟩
  rw [selects,
    Location.stored_text_hasTruth validContext distinct isServer resolved
      ((mem_candidates declared).mpr requested) unbound]
  refine and_congr_left fun _ => forall_congr' fun binding => ?_
  simp [Location.bindingsOf, mem_candidates declared, context, Compiler.context]

/-- A rack with a note that is left over is selected by it when it is asked for
together with servers that carry notes. It is not selected when virtual
machines, which have the notes of the machines they run on, are asked for as
well. -/
theorem selects_differs_rack :
    let host : Attribute :=
      { id := "host", type := .hostname (some "hypervisor") }
    let note : Attribute := { id := "note", type := .scalar .string }
    let schema : Schema := ⟨["hypervisor", "rack", "vm"], [host, note],
      [⟨"hypervisor", "note", none⟩, ⟨"vm", "host", none⟩,
        ⟨"vm", "note", some "host"⟩]⟩
    let compiler : Compiler := ⟨schema, {}⟩
    let query : Query := [("note", .equals (.string "spare"))]
    let inventory : Inventory PlainValue :=
      { servers := [⟨1, "rack", none⟩]
        relations := []
        values
          | .string => [⟨1, "note", .text "spare"⟩]
          | _ => [] }
    let database := inventory.asDatabase {} (.plain fun _ => [])
    let row := Server.row {} database ⟨1, "rack", none⟩
    (∃ declarations, Schema.build declarations = .ok schema) ∧
    row ∈ database.rows "server" ∧
      row "servertype_id" = some (database.text "rack") ∧
    ∃ chosen other,
      compiler.assemble ["hypervisor", "rack"] query {} = .ok (some chosen) ∧
      compiler.assemble ["hypervisor", "rack", "vm"] query {} =
        .ok (some other) ∧
      ¬ (chosen.Selects database row ↔ other.Selects database row) := by
  intro host note schema compiler query inventory database row
  have built : Schema.build
    [.servertype "vm", .servertype "rack", .servertype "hypervisor",
      .attr host, .attr note, .binding ⟨"vm", "note", some "host"⟩,
      .binding ⟨"vm", "host", none⟩, .binding ⟨"hypervisor", "note", none⟩] =
    .ok schema := by cbv
  have plain : ∀ attr ∈ schema.attributes, Location.HasPlainColumn attr := by
    simp [schema, host, note, Location.HasPlainColumn]
  have assembled : ∃ chosen,
      compiler.assemble ["hypervisor", "rack"] query {} = .ok (some chosen) :=
    ⟨_, rfl⟩
  have assembledOther : ∃ other,
      compiler.assemble ["hypervisor", "rack", "vm"] query {} =
        .ok (some other) := ⟨_, rfl⟩
  obtain ⟨chosen, assembled⟩ := assembled
  obtain ⟨other, assembledOther⟩ := assembledOther
  have isRow : row ∈ database.rows "server" := List.mem_singleton_self row
  have isServertype : row "servertype_id" = some (database.text "rack") := rfl
  have isTold (text : String) : database.compare "=" (database.text "rack")
      (database.text text) = .yes ↔ "rack" = text := by
    simp [database, Inventory.asDatabase, Database.plain]
  have valid : compiler.settings.layout.check = .ok () := by decide
  have found : compiler.schema.findAttribute? note.id = some note := rfl
  have selects :=
    selects_unbound_iff built valid plain found rfl rfl assembled isRow
      (List.mem_cons_of_mem _ List.mem_cons_self) isServertype isTold rfl
  have selectsOther :=
    selects_unbound_iff built valid plain found rfl rfl assembledOther isRow
      (List.mem_cons_of_mem _ List.mem_cons_self) isServertype isTold rfl
  have isSelected : chosen.Selects database row := by
    refine selects.mpr ⟨?_, _, List.mem_singleton_self _, rfl, rfl, rfl⟩
    decide
  have notSelected : ¬ other.Selects database row := by
    intro selected
    have isBound : ⟨"vm", "note", some "host"⟩ ∈ schema.bindings "note" :=
      List.mem_cons_of_mem _ List.mem_cons_self
    have direct := (selectsOther.mp selected).1 _ isBound (by simp)
    cases direct
  refine ⟨⟨_, built⟩, isRow, isServertype, chosen, other, assembled,
    assembledOther, ?_⟩
  intro same
  exact notSelected (same.mp isSelected)

end Compiler

end AttributeQuery
