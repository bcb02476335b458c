import AttributeQuery.Proofs.Query.Candidates

/-!
# Links from both ends

A row of the relation table is found from both of its ends: from the server that
owns it through the hostname attribute that it belongs to, and from the server
it names through an attribute that reverses that one. A server whose servertype
carries the hostname attribute itself therefore has a link to another server
exactly when the other server has the reverse link, whichever servertypes are
asked for beside each of them and however those reach the attribute.
-/

namespace AttributeQuery

open Sql

/-- A database tells texts apart, and what it finds equal is equal in either
order. -/
structure Sql.Database.TellsEqual {Value : Type} (database : Database Value) :
    Prop where
  text : ∀ first second,
    database.compare "=" (database.text first) (database.text second) = .yes ↔
      first = second
  symmetric : ∀ first second, database.compare "=" first second = .yes →
    database.compare "=" second first = .yes

variable {Value : Type} {context : Context} {database : Database Value}
  {attr : Attribute} {serverRow : Row Value}

theorem Sql.Database.TellsEqual.equates_comm (equal : database.TellsEqual)
    {left right : Option Value} : database.Equates left right ↔
      database.Equates right left := by
  unfold Database.Equates
  cases left with
  | none => cases right <;> exact Iff.rfl
  | some first =>
      cases right with
      | none => exact Iff.rfl
      | some second =>
          exact ⟨equal.symmetric first second, equal.symmetric second first⟩

/-! ## Hostnames -/

/-- The condition of a hostname of a link compares the ids of servers with the
one that the hostname stands for. -/
theorem Filter.compile_hostname_eq_ok {location : Location}
    (isLink : attr.type.isLink = true) {hostname : String}
    {condition : Condition}
    (compiled : (Filter.equals (.string hostname)).compile context attr
      location = .ok condition) :
    ∃ serverId, context.hostnames.get? hostname = some serverId ∧
      condition =
        location.apply (Predicate.comparedBy "=" (.integer serverId) none) := by
  obtain ⟨predicate, built, returned⟩ := bind_eq_ok.mp compiled
  have notBoolean : attr.isBoolean = false := by
    cases type : attr.type <;>
      simp_all [Attribute.isBoolean, AttributeType.isLink]
  rw [ofLeaf_equals notBoolean] at built
  obtain ⟨⟨value, castText⟩, bound, isPredicate⟩ := bind_eq_ok.mp built
  obtain ⟨isOperand, rfl⟩ := Predicate.operand_eq_ok.mp bound
  cases isOperand with
  | scalar type => simp [type, AttributeType.isLink] at isLink
  | hostname _ _ known =>
      refine ⟨_, known, ?_⟩
      rw [← pure_eq_ok.mp returned, ← pure_eq_ok.mp isPredicate,
        Predicate.operandCast_of_isLink isLink]

namespace Location

/-! ## Rows from both ends -/

section Rows

variable {location : Location} (valid : context.layout.check = .ok ())

include valid

/-- From the server that a row names, its owner is found. -/
theorem reverse_equality_states (database : Database Value)
    (serverRow : Row Value) {reversed : AttributeId}
    (notSpecial : attr.special = none)
    (type : attr.type = .reverseHostname reversed)
    (resolved : resolve context attr = .ok location) (value : SqlValue) :
    ∃ parts,
      (location.apply (Predicate.comparedBy "=" value none)).States parts ∧
      (Expression.AllHold database [("server", serverRow)] parts ↔
        ∃ row ∈ database.rows (context.named .relationTable),
          database.Equates (row "attribute_id")
            (some (database.text reversed)) ∧
          database.Equates (row "value")
            (serverRow (context.named .serverIdColumn)) ∧
          database.Equates (row "server_id")
            (some (database.bound value))) := by
  simp only [resolve, notSpecial, ofType, type] at resolved
  obtain rfl := pure_eq_ok.mp resolved
  have isColumn : IsColumn (subjectColumn "sub.server_id" none .value) "sub"
      "server_id" :=
    isColumn_subOwner
  have located :=
    located_existence_states (isWord_named valid .relationTable) (by simp)
      (.cons (columnIs_states isColumn_subAttribute reversed)
        (.cons (columnsEqual_states isColumn_subValue
          (isColumn_server valid .serverIdColumn)) .nil)) isColumn rfl
      (Predicate.equality_states .none value)
  refine ⟨_, located, ?_⟩
  rw [Expression.allHold_hasRow]
  refine exists_congr fun row => and_congr_right fun _ => ?_
  simp only [List.flatten_cons, List.flatten_nil, List.append_nil,
    Expression.allHold_append, Expression.allHold_cons, Expression.allHold_nil,
    and_true, Expression.truth, Operand.compared, Operand.value,
    Operand.boundAs, read_sub, sees_sub row serverRow _, and_assoc]
  rfl

/-- From the server that owns a row, the server it names is found. -/
theorem forward_equality_states (distinct : context.schema.HasDistinctBindings)
    {servertype : ServertypeId}
    (isServer : IsServerOf context database servertype serverRow)
    (candidate : servertype ∈ context.servertypes)
    (direct : context.schema.BindsDirectly servertype attr.id)
    {target : Option ServertypeId} (notSpecial : attr.special = none)
    (type : attr.type = .hostname target)
    (resolved : resolve context attr = .ok location) (value : SqlValue) :
    ∃ parts,
      (location.apply (Predicate.comparedBy "=" value none)).States parts ∧
      (Expression.AllHold database [("server", serverRow)] parts ↔
        ∃ row ∈ database.rows (context.named .relationTable),
          database.Equates (serverRow (context.named .serverIdColumn))
            (row "server_id") ∧
          database.Equates (row "attribute_id") (some (database.text attr.id)) ∧
          database.Equates (row "value") (some (database.bound value))) := by
  simp only [resolve, notSpecial, ofType, type] at resolved
  obtain ⟨owner, held, parts, states, holds⟩ :=
    stored_equality_states valid database serverRow resolved value
  refine ⟨parts, states,
    holds.trans (exists_congr fun row => and_congr_right fun _ => ?_)⟩
  rw [holderWithin_direct valid distinct isServer (sees_sub row serverRow)
    isColumn_subOwner held candidate direct, read_sub]

end Rows

end Location

/-- A link is never held by a column of the server table. -/
theorem Schema.special_of_isLink {declarations : List Declaration}
    {schema : Schema} (built : Schema.build declarations = .ok schema)
    (found : schema.findAttribute? attr.id = some attr)
    (isLink : attr.type.isLink = true) :
    attr.special = none := by
  cases special : attr.special with
  | none => rfl
  | some field =>
      have isSpecial : attr.isSpecial = true := by
        simp [Attribute.isSpecial, special]
      have notLink :=
        build_special built (mem_of_findAttribute? found) isSpecial
      simp [Attribute.isLink, isLink] at notLink

namespace Compiler

/-- A condition that a link names the server of a hostname that is known. -/
theorem compileCondition_hostname_eq_ok {compiler : Compiler}
    (found : compiler.schema.findAttribute? attr.id = some attr)
    (isLink : attr.type.isLink = true) {hostnames : HostnameIds}
    {hostname : String} {serverId : Int64}
    (knows : hostnames.get? hostname = some serverId)
    {servertypes : List ServertypeId} {condition : Condition}
    (compiled : compiler.compileCondition servertypes attr.id
      (.equals (.string hostname)) hostnames = .ok condition) :
    ∃ candidates location, compiler.candidates servertypes = .ok candidates ∧
      Location.resolve (compiler.context candidates hostnames) attr =
        .ok location ∧
      condition =
        location.apply (Predicate.comparedBy "=" (.integer serverId) none) := by
  obtain ⟨candidates, declared, compiled⟩ := bind_eq_ok.mp compiled
  obtain ⟨other, location, foundOther, resolved, compiledFilter⟩ :=
    conditionIn_eq_ok.mp compiled
  obtain rfl := Option.some.inj (found.symm.trans foundOther)
  obtain ⟨_, known, isCondition⟩ :=
    Filter.compile_hostname_eq_ok isLink compiledFilter
  obtain rfl := Option.some.inj (knows.symm.trans known)
  exact ⟨candidates, location, declared, resolved, isCondition⟩

/-- A link and the attribute that reverses it find the same rows. The server
that a row names satisfies the condition that the hostname of the owner is among
its reverse links exactly when the owner, whose servertype carries the link
itself, satisfies the condition that the hostname of the named server is its
link, and both do exactly when there is a row of the two servers. -/
theorem reverse_iff_forward {compiler : Compiler}
    {declarations : List Declaration}
    (built : Schema.build declarations = .ok compiler.schema)
    (valid : compiler.settings.layout.check = .ok ())
    {forward reverse : Attribute} {target : Option ServertypeId}
    (isForward : compiler.schema.findAttribute? forward.id = some forward)
    (forwardType : forward.type = .hostname target)
    (isReverse : compiler.schema.findAttribute? reverse.id = some reverse)
    (reverseType : reverse.type = .reverseHostname forward.id)
    (equal : database.TellsEqual) {named owner : Server Value}
    {namedRow ownerRow : Row Value}
    (isNamed : named.IsRow compiler.settings.layout database namedRow)
    (isOwner : owner.IsRow compiler.settings.layout database ownerRow)
    (direct : compiler.schema.BindsDirectly owner.servertype forward.id)
    {hostnames : HostnameIds} {namedHostname ownerHostname : String}
    {namedId ownerId : Int64}
    (knowsNamed : hostnames.get? namedHostname = some namedId)
    (isNamedId : namedId.toInt = named.id)
    (knowsOwner : hostnames.get? ownerHostname = some ownerId)
    (isOwnerId : ownerId.toInt = owner.id)
    {reverseCandidates forwardCandidates : List ServertypeId}
    (asksOwner : owner.servertype ∈ forwardCandidates)
    {reverseCondition forwardCondition : Condition}
    (compiledReverse : compiler.compileCondition reverseCandidates reverse.id
      (.equals (.string ownerHostname)) hostnames = .ok reverseCondition)
    (compiledForward : compiler.compileCondition forwardCandidates forward.id
      (.equals (.string namedHostname)) hostnames = .ok forwardCondition)
    (dialect : Dialect) :
    (reverseCondition.truth? dialect database [("server", namedRow)] =
      some .yes ↔
      forwardCondition.truth? dialect database [("server", ownerRow)] =
        some .yes) ∧
    (forwardCondition.truth? dialect database [("server", ownerRow)] =
      some .yes ↔
      ∃ row ∈ database.rows (compiler.settings.layout.name .relationTable),
        database.Equates (row "server_id") (some (database.number owner.id)) ∧
        database.Equates (row "attribute_id")
          (some (database.text forward.id)) ∧
        database.Equates (row "value") (some (database.number named.id))) := by
  have isLinkReverse : reverse.type.isLink = true := by
    simp [reverseType, AttributeType.isLink]
  have isLinkForward : forward.type.isLink = true := by
    simp [forwardType, AttributeType.isLink]
  obtain ⟨reverseServertypes, reverseLocation, -, resolvedReverse, rfl⟩ :=
    compileCondition_hostname_eq_ok isReverse isLinkReverse knowsOwner
      compiledReverse
  obtain ⟨forwardServertypes, forwardLocation, declared,
      resolvedForward, rfl⟩ :=
    compileCondition_hostname_eq_ok isForward isLinkForward knowsNamed
      compiledForward
  let reverseContext := compiler.context reverseServertypes hostnames
  let forwardContext := compiler.context forwardServertypes hostnames
  have validReverse : reverseContext.layout.check = .ok () := valid
  have validForward : forwardContext.layout.check = .ok () := valid
  have isServer : Location.IsServerOf forwardContext database
      owner.servertype ownerRow :=
    ⟨isOwner.servertype, equal.text owner.servertype⟩
  obtain ⟨reverseParts, reverseStates, reverseHolds⟩ :=
    Location.reverse_equality_states validReverse database namedRow
      (Schema.special_of_isLink built isReverse isLinkReverse) reverseType
      resolvedReverse (.integer ownerId)
  obtain ⟨forwardParts, forwardStates, forwardHolds⟩ :=
    Location.forward_equality_states validForward (Schema.build_distinct built)
      isServer ((mem_candidates declared).mpr asksOwner) direct
      (Schema.special_of_isLink built isForward isLinkForward) forwardType
      resolvedForward (.integer namedId)
  have links : (∃ row ∈ database.rows (forwardContext.named .relationTable),
        database.Equates (ownerRow (forwardContext.named .serverIdColumn))
          (row "server_id") ∧
        database.Equates (row "attribute_id")
          (some (database.text forward.id)) ∧
        database.Equates (row "value")
          (some (database.bound (.integer namedId)))) ↔
      ∃ row ∈ database.rows (compiler.settings.layout.name .relationTable),
        database.Equates (row "server_id") (some (database.number owner.id)) ∧
        database.Equates (row "attribute_id")
          (some (database.text forward.id)) ∧
        database.Equates (row "value") (some (database.number named.id)) := by
    refine exists_congr fun row => and_congr_right fun _ => ?_
    rw [Database.bound, isNamedId, equal.equates_comm,
      show ownerRow (forwardContext.named .serverIdColumn) = _ from isOwner.id]
  rw [reverseStates.truth?_eq_yes_iff, forwardStates.truth?_eq_yes_iff,
    reverseHolds, forwardHolds, links]
  refine ⟨exists_congr fun row => and_congr_right fun _ => ?_, Iff.rfl⟩
  rw [Database.bound, isOwnerId,
    show namedRow (reverseContext.named .serverIdColumn) = _ from isNamed.id]
  exact and_rotate.symm

/-- A hypervisor has the machine that runs on it as a guest, and the machine has
it as its host. Containers, which are asked for beside machines, have the host
of their machine, so that guards tell the two apart. -/
theorem reverse_iff_forward_guest :
    let machine : Attribute :=
      { id := "machine", type := .hostname (some "vm") }
    let host : Attribute :=
      { id := "host", type := .hostname (some "hypervisor") }
    let guests : Attribute :=
      { id := "guests", type := .reverseHostname "host" }
    let schema : Schema :=
      ⟨["container", "hypervisor", "vm"], [guests, host, machine],
        [⟨"container", "machine", none⟩, ⟨"container", "host", some "machine"⟩,
          ⟨"hypervisor", "guests", none⟩, ⟨"vm", "host", none⟩]⟩
    let compiler : Compiler := ⟨schema, {}⟩
    let hostnames : HostnameIds := .ofList [("metal", 7), ("web", 9)]
    let inventory : Inventory PlainValue :=
      { servers := [⟨7, "hypervisor", none⟩, ⟨9, "vm", none⟩]
        relations := [⟨9, "host", 7⟩]
        values := fun _ => [] }
    let database := inventory.asDatabase {} (.plain fun _ => [])
    ∃ isGuest isHosted,
      compiler.compileCondition ["hypervisor", "vm"] "guests"
        (.equals (.string "web")) hostnames = .ok isGuest ∧
      compiler.compileCondition ["vm", "container"] "host"
        (.equals (.string "metal")) hostnames = .ok isHosted ∧
      isGuest.truth? .postgres database
        [("server", Server.row {} database ⟨7, "hypervisor", none⟩)] =
          some .yes ∧
      isHosted.truth? .postgres database
        [("server", Server.row {} database ⟨9, "vm", none⟩)] = some .yes := by
  intro machine host guests schema compiler hostnames inventory database
  have built : Schema.build
    [.servertype "vm", .servertype "hypervisor", .servertype "container",
      .attr machine, .attr host, .attr guests,
      .binding ⟨"container", "host", some "machine"⟩,
      .binding ⟨"container", "machine", none⟩,
      .binding ⟨"hypervisor", "guests", none⟩, .binding ⟨"vm", "host", none⟩] =
    .ok schema := by cbv
  have distinct : Layout.IsDistinct {} := ⟨by decide, by decide⟩
  have equal : database.TellsEqual := by
    constructor
    · simp [database, Inventory.asDatabase, Database.plain]
    · simp [database, Inventory.asDatabase, Database.plain, eq_comm]
  have compiledReverse : ∃ condition,
    compiler.compileCondition ["hypervisor", "vm"] "guests"
      (.equals (.string "web")) hostnames = .ok condition := ⟨_, rfl⟩
  have compiledForward : ∃ condition,
    compiler.compileCondition ["vm", "container"] "host"
      (.equals (.string "metal")) hostnames = .ok condition := ⟨_, rfl⟩
  obtain ⟨isGuest, compiledReverse⟩ := compiledReverse
  obtain ⟨isHosted, compiledForward⟩ := compiledForward
  have isRow (server : Server PlainValue) :=
    server.isRow_row (.plain fun _ => []) inventory distinct
  have direct : schema.BindsDirectly "vm" "host" :=
    ⟨⟨"vm", "host", none⟩, rfl, rfl⟩
  have valid : compiler.settings.layout.check = .ok () := by decide
  have isForward : compiler.schema.findAttribute? host.id = some host := rfl
  have isReverse : compiler.schema.findAttribute? guests.id = some guests := rfl
  have knowsNamed : hostnames.get? "metal" = some 7 := by decide
  have knowsOwner : hostnames.get? "web" = some 9 := by decide
  obtain ⟨mirrored, linked⟩ :=
    reverse_iff_forward built valid isForward rfl isReverse rfl equal
      (isRow ⟨7, "hypervisor", none⟩) (isRow ⟨9, "vm", none⟩) direct knowsNamed
      rfl knowsOwner rfl List.mem_cons_self compiledReverse compiledForward
      .postgres
  have holds := linked.mpr ⟨_, List.mem_singleton_self _, rfl, rfl, rfl⟩
  exact ⟨isGuest, isHosted, compiledReverse, compiledForward,
    mirrored.mpr holds, holds⟩

end Compiler

end AttributeQuery
