import AttributeQuery.Proofs.Query.Chains
import AttributeQuery.Proofs.Query.Holders
import AttributeQuery.Proofs.Query.Listing

/-!
# Holders for more servertypes

What states the holder of an attribute depends on all servertypes that are asked
for: there is a strategy for each way that one of them goes, and a guard where
the ways differ. For the servers of one of them it states the same all the same,
through any number of links. Only an attribute that is not bound to their
servertype is an exception, the first one or a link on the way: if all others
that are asked for carry it themselves, no guard keeps such a server from what
it owns, and as soon as one of them goes through a link, a guard does.
-/

namespace AttributeQuery

open Sql

/-! ## Guards -/

namespace Schema

variable (schema : Schema)

/-- The servertypes of a group that an attribute is bound to all carry it
themselves. -/
def AllBindDirectly (group : Set ServertypeId) (id : AttributeId) : Prop :=
  ∀ binding ∈ schema.bindings id, binding.servertype ∈ group →
    binding.relatedVia = none

/-- A servertype is asked for in two groups, and its links lead from an
attribute to one that it is not bound to, where only one of the groups has a
guard: the servertypes of the other all carry that attribute themselves. Behind
a link, each group has only the servertypes that are bound through it. -/
inductive GuardsDiffer (servertype : ServertypeId) :
    Set ServertypeId → Set ServertypeId → AttributeId → AttributeId → Prop where
  | here {group other : Set ServertypeId} {id : AttributeId}
      (unbound : schema.binding? servertype id = none)
      (differ : ¬ (schema.AllBindDirectly group id ↔
        schema.AllBindDirectly other id)) :
      GuardsDiffer servertype group other id id
  | through {group other : Set ServertypeId} {id via last : AttributeId}
      {binding : Binding} (bound : schema.binding? servertype id = some binding)
      (isRelated : binding.relatedVia = some via)
      (isHostname : schema.IsHostname via)
      (rest : GuardsDiffer servertype (schema.boundThrough group id via)
        (schema.boundThrough other id via) via last) :
      GuardsDiffer servertype group other id last

end Schema

/-- A database finds two values equal; null is equal to nothing. -/
def Sql.Database.Equates {Value : Type} (database : Database Value)
    (left right : Option Value) : Prop :=
  Database.strictly (database.compare "=") left right = .yes

namespace Location

variable {Value : Type} {context : Context} {database : Database Value}
  {servertype : ServertypeId} {serverRow : Row Value} {scopes : Scopes Value}
  {relation holder : Relation} {id : AttributeId}
  {reached qualifier name : String} {servertypes : List ServertypeId}
  {condition : Condition}

/-! ## Strategies for one servertype -/

/-- There is one strategy for each way. -/
theorem IsStrategy.unique {bindings : List Binding} {via : Option AttributeId}
    {first second : Strategy}
    (isFirst : IsStrategy context relation reached bindings via first)
    (isSecond : IsStrategy context relation reached bindings via second) :
    first = second := by
  have sameServertypes : first.servertypes = second.servertypes :=
    isFirst.servertypes.trans isSecond.servertypes.symm
  have sameCondition : first.condition = second.condition := by
    cases via with
    | none =>
        have direct : first.condition = _ := isFirst.condition
        exact direct.trans isSecond.condition.symm
    | some link =>
        have related : relation link reached first.servertypes =
            .ok first.condition :=
          isFirst.condition
        rw [sameServertypes] at related
        exact Except.ok.inj (related.symm.trans isSecond.condition)
  cases first
  cases second
  simp only [Strategy.mk.injEq]
  exact ⟨sameServertypes, sameCondition⟩

theorem binding?_of_mem_boundVia (distinct : context.schema.HasDistinctBindings)
    {via : Option AttributeId}
    (member : servertype ∈ boundVia (bindingsOf context id servertypes) via) :
    ∃ binding, context.schema.binding? servertype id = some binding ∧
      binding.relatedVia = via := by
  obtain ⟨binding, isBinding, isVia, rfl⟩ := mem_boundVia.mp member
  exact ⟨binding, ((mem_bindingsOf distinct).mp isBinding).1, isVia⟩

/-- Servertypes that carry an attribute themselves need no guard. -/
theorem holderBy_direct
    (direct : ∀ binding ∈ bindingsOf context id servertypes,
      binding.relatedVia = none)
    (held : holderBy context relation id reached servertypes = .ok condition) :
    condition =
      columnsEqual (serverColumn (context.named .serverIdColumn)) reached := by
  unfold holderBy at held
  generalize bindingsOf context id servertypes = bindings at direct held
  have noLink : links bindings = [] := by
    rw [List.eq_nil_iff_forall_not_mem]
    intro via isLink
    obtain ⟨binding, member, isVia⟩ := mem_links.mp isLink
    simp [direct binding member] at isVia
  cases bindings with
  | nil => simp at held
  | cons first rest =>
      have noOther : (links (first :: rest)).mapM
          (linkStrategy relation reached (first :: rest)) = Except.ok [] := by
        rw [noLink]
        rfl
      obtain ⟨related, computed, chosen⟩ := bind_eq_ok.mp held
      obtain rfl := Except.ok.inj (noOther.symm.trans computed)
      have isBound : first.servertype ∈ boundVia (first :: rest) none :=
        mem_boundVia.mpr
          ⟨first, List.mem_cons_self, direct first List.mem_cons_self, rfl⟩
      have isOne : directStrategy context reached (first :: rest) =
          [⟨boundVia (first :: rest) none,
            columnsEqual (serverColumn (context.named .serverIdColumn))
              reached⟩] := by
        unfold directStrategy
        split
        next none => simp [none] at isBound
        next => rfl
      simp only [isOne, List.append_nil, needsGuard, noLink, List.any_nil,
        List.length_singleton, lt_irrefl, decide_false, Bool.or_false] at chosen
      exact (pure_eq_ok.mp chosen).symm

section OneServertype

variable (valid : context.layout.check = .ok ())
  (distinct : context.schema.HasDistinctBindings)
  (readable : relation.IsReadable)
  (isServer : IsServerOf context database servertype serverRow)
  (sees : Sees scopes serverRow) (isReached : IsColumn reached qualifier name)

include valid in
/-- The outer server is the one that is reached. -/
theorem columnsEqual_hasTruth (sees : Sees scopes serverRow)
    (isReached : IsColumn reached qualifier name) :
    (columnsEqual (serverColumn (context.named .serverIdColumn))
      reached).HasTruth database scopes .yes ↔
      database.Equates (serverRow (context.named .serverIdColumn))
        (scopes.read qualifier name) := by
  have states :=
    columnsEqual_states (isColumn_server valid .serverIdColumn) isReached
  rw [← states.allHold_iff, Expression.allHold_singleton, Expression.truth,
    Operand.compared, Operand.value, Operand.value, sees]
  rfl

include valid readable isServer sees isReached in
/-- Of several guarded strategies, that for the servertype of the outer server
decides. -/
theorem anyGuarded_hasTruth {strategies : List Strategy}
    (areStrategies : AreStrategies context relation reached
      (bindingsOf context id servertypes) strategies)
    (isSome : strategies ≠ []) :
    (anyGuarded context strategies).HasTruth database scopes .yes ↔
      ∃ strategy ∈ strategies, servertype ∈ strategy.servertypes ∧
        strategy.condition.HasTruth database scopes .yes := by
  have each : ∀ strategy ∈ strategies, ∃ parts,
      strategy.condition.States parts := by
    intro strategy member
    obtain ⟨via, isStrategy⟩ := areStrategies.each strategy member
    exact isStrategy.states valid readable isReached
  have haveServertypes : ∀ strategy ∈ strategies,
      strategy.servertypes ≠ [] := by
    intro strategy member
    obtain ⟨via, isStrategy⟩ := areStrategies.each strategy member
    exact isStrategy.servertypes_ne_nil
  obtain ⟨partLists, stated⟩ := exists_forall₂ each
  have states := anyGuarded_states valid isSome haveServertypes stated
  rw [← states.allHold_iff, Expression.allHold_singleton]
  exact truth_anyGuarded isServer sees
    (stated.imp fun _ _ states _ => states.allHold_iff)

include valid distinct readable isServer sees isReached in
/-- For a servertype that an attribute is bound to, the condition of the holder
states what its strategy does. -/
theorem holderBy_bound
    (held : holderBy context relation id reached servertypes = .ok condition)
    (candidate : servertype ∈ servertypes) {binding : Binding}
    (bound : context.schema.binding? servertype id = some binding) :
    ∃ strategy,
      IsStrategy context relation reached (bindingsOf context id servertypes)
        binding.relatedVia strategy ∧ servertype ∈ strategy.servertypes ∧
      (condition.HasTruth database scopes .yes ↔
        strategy.condition.HasTruth database scopes .yes) := by
  obtain ⟨strategies, areStrategies, isSome, chosen⟩ := holderBy_eq_ok held
  have isServertype := (Schema.mem_of_binding? bound).2
  have isBinding : binding ∈ bindingsOf context id servertypes :=
    (mem_bindingsOf distinct).mpr
      ⟨isServertype ▸ bound, isServertype ▸ candidate⟩
  obtain ⟨strategy, isOne, isStrategy⟩ :=
    areStrategies.complete binding isBinding
  have isFor : servertype ∈ strategy.servertypes := by
    rw [isStrategy.servertypes]
    exact mem_boundVia.mpr ⟨binding, isBinding, rfl, isServertype⟩
  refine ⟨strategy, isStrategy, isFor, ?_⟩
  cases chosen with
  | inl single =>
      obtain ⟨only, rfl, rfl, -⟩ := single
      rw [List.mem_singleton.mp isOne]
  | inr guarded =>
      rw [guarded,
        anyGuarded_hasTruth valid readable isServer sees isReached
          areStrategies isSome]
      constructor
      · rintro ⟨chosen, isChosen, isForChosen, holds⟩
        obtain ⟨via, isStrategyChosen⟩ := areStrategies.each chosen isChosen
        rw [isStrategyChosen.servertypes] at isForChosen
        obtain ⟨found, foundBound, rfl⟩ :=
          binding?_of_mem_boundVia distinct isForChosen
        obtain rfl := Option.some.inj (bound.symm.trans foundBound)
        rwa [isStrategy.unique isStrategyChosen]
      · intro holds
        exact ⟨strategy, isOne, isFor, holds⟩

include valid distinct readable isServer sees isReached in
/-- For a servertype that an attribute is not bound to, the condition of the
holder has a guard, unless the other servertypes all carry the attribute
themselves: then it states that the outer server is reached. -/
theorem holderBy_unbound
    (held : holderBy context relation id reached servertypes = .ok condition)
    (candidate : servertype ∈ servertypes)
    (unbound : context.schema.binding? servertype id = none) :
    condition.HasTruth database scopes .yes ↔
      (∀ binding ∈ bindingsOf context id servertypes,
        binding.relatedVia = none) ∧
        database.Equates (serverRow (context.named .serverIdColumn))
          (scopes.read qualifier name) := by
  have notBound (via : Option AttributeId) :
      servertype ∉ boundVia (bindingsOf context id servertypes) via := by
    intro member
    obtain ⟨binding, bound, -⟩ := binding?_of_mem_boundVia distinct member
    simp [unbound] at bound
  obtain ⟨strategies, areStrategies, isSome, chosen⟩ := holderBy_eq_ok held
  constructor
  · intro holds
    cases chosen with
    | inl single =>
        obtain ⟨only, rfl, rfl, noGuard⟩ := single
        obtain ⟨via, isStrategy⟩ := areStrategies.each only List.mem_cons_self
        cases via with
        | none =>
            rw [isStrategy.direct] at holds
            refine ⟨fun binding member => ?_,
              (columnsEqual_hasTruth valid sees isReached).mp holds⟩
            obtain ⟨strategy, isOne, isOther⟩ :=
              areStrategies.complete binding member
            rw [List.mem_singleton.mp isOne] at isOther
            exact isOther.via_unique distinct isStrategy
        | some link =>
            have isLink := mem_links.mpr isStrategy.isBound
            exact absurd (mem_of_needsGuard distinct noGuard isLink candidate)
              (notBound _)
    | inr guarded =>
        rw [guarded,
          anyGuarded_hasTruth valid readable isServer sees isReached
            areStrategies isSome] at holds
        obtain ⟨strategy, member, isFor, -⟩ := holds
        obtain ⟨via, isStrategy⟩ := areStrategies.each strategy member
        rw [isStrategy.servertypes] at isFor
        exact absurd isFor (notBound via)
  · rintro ⟨direct, isOwn⟩
    rw [holderBy_direct direct held]
    exact (columnsEqual_hasTruth valid sees isReached).mpr isOwn

end OneServertype

/-! ## Agreement -/

/-- A row that is stored for an attribute has an owner. -/
def IsOwnerOf (schema : Schema) (layout : Layout) (database : Database Value)
    (id : AttributeId) (owner : Option Value) : Prop :=
  ∃ attr table row, schema.findAttribute? id = some attr ∧
    attr.table? = some table ∧
    row ∈ database.rows (layout.name table) ∧
    database.Equates (row "attribute_id") (some (database.text id)) ∧
    row "server_id" = owner

/-- From an attribute on, a server owns no rows that are left over where the
guards of two groups differ. -/
def HasNoLeftovers (schema : Schema) (layout : Layout)
    (database : Database Value) (serverRow : Row Value)
    (servertype : ServertypeId) (group other : Set ServertypeId)
    (id : AttributeId) : Prop :=
  ∀ last owner, schema.GuardsDiffer servertype group other id last →
    IsOwnerOf schema layout database last owner →
    ¬ database.Equates (serverRow (layout.name .serverIdColumn)) owner

/-- Whichever of two groups of servertypes are asked for, a relation states the
same for the servers of a servertype of both, where it applies. The column with
the id of the reached server belongs to none of the links to come. -/
def Relation.Agrees (database : Database Value) (serverRow : Row Value)
    (servertype : ServertypeId) (depth : Nat) (relation : Relation)
    (Applies : List ServertypeId → List ServertypeId → AttributeId →
      Option Value → Prop) : Prop :=
  ∀ {id : AttributeId} {reached qualifier name : String}
    {servertypes others : List ServertypeId} {condition other : Condition},
    IsColumn reached qualifier name →
    (∀ later, depth ≤ later → qualifier ≠ linkName later) →
    servertype ∈ servertypes → servertype ∈ others →
    relation id reached servertypes = .ok condition →
    relation id reached others = .ok other →
    ∀ {scopes : Scopes Value}, Sees scopes serverRow →
      Applies servertypes others id (scopes.read qualifier name) →
      (condition.HasTruth database scopes .yes ↔
        other.HasTruth database scopes .yes)

/-- A relation for holders is asked for the owner of a row, where none is left
over from the attribute on. -/
def AppliesToOwners (context : Context) (database : Database Value)
    (serverRow : Row Value) (servertype : ServertypeId)
    (servertypes others : List ServertypeId) (id : AttributeId)
    (owner : Option Value) : Prop :=
  IsOwnerOf context.schema context.layout database id owner ∧
    HasNoLeftovers context.schema context.layout database serverRow servertype
      (groupOf servertypes) (groupOf others) id

/-- A relation for links is asked for any server, where no row is left over from
the link on if it is stored. -/
def AppliesToLinks (context : Context) (database : Database Value)
    (serverRow : Row Value) (servertype : ServertypeId)
    (servertypes others : List ServertypeId) (via : AttributeId)
    (_reached : Option Value) : Prop :=
  context.schema.IsHostname via →
    HasNoLeftovers context.schema context.layout database serverRow servertype
      (groupOf servertypes) (groupOf others) via

section Agreement

variable {depth : Nat} (valid : context.layout.check = .ok ())
  (distinct : context.schema.HasDistinctBindings)

theorem allBindDirectly_iff :
    context.schema.AllBindDirectly (groupOf servertypes) id ↔
      ∀ binding ∈ bindingsOf context id servertypes,
      binding.relatedVia = none := by
  simp only [Schema.AllBindDirectly, mem_bindingsOf_iff, and_imp]

variable (isServer : IsServerOf context database servertype serverRow)

include valid distinct isServer

/-- If a relation for links states the same for two groups of servertypes, that
for holders does. -/
theorem holderBy_agrees (readable : relation.IsReadable)
    (agrees : relation.Agrees database serverRow servertype depth
      (AppliesToLinks context database serverRow servertype)) :
    (holderBy context relation).Agrees database serverRow servertype depth
      (AppliesToOwners context database serverRow servertype) := by
  intro id reached qualifier name servertypes others condition other isReached
    apart asked askedOther held heldOther scopes sees ⟨isOwner, noLeftovers⟩
  cases bound : context.schema.binding? servertype id with
  | some binding =>
      obtain ⟨strategy, isStrategy, isFor, same⟩ :=
        holderBy_bound valid distinct readable isServer sees isReached
          held asked bound
      obtain ⟨second, isSecond, isForSecond, sameSecond⟩ :=
        holderBy_bound valid distinct readable isServer sees isReached heldOther
          askedOther bound
      rw [same, sameSecond]
      cases isRelated : binding.relatedVia with
      | none =>
          rw [isRelated] at isStrategy isSecond
          rw [isStrategy.direct, isSecond.direct]
      | some link =>
          rw [isRelated] at isStrategy isSecond
          apply agrees isReached apart isFor isForSecond isStrategy.condition
            isSecond.condition sees
          intro isHostname last owner differ
          rw [isStrategy.servertypes, isSecond.servertypes, groupOf_boundVia,
            groupOf_boundVia] at differ
          exact noLeftovers last owner
            (.through bound isRelated isHostname differ)
  | none =>
      rw [holderBy_unbound valid distinct readable isServer sees isReached held
        asked bound,
        holderBy_unbound valid distinct readable isServer sees isReached
          heldOther askedOther bound, ← allBindDirectly_iff,
          ← allBindDirectly_iff]
      refine and_congr_left fun isOwn => ?_
      by_contra differ
      exact noLeftovers id _ (.here bound differ) isOwner isOwn

omit distinct isServer in
/-- If a relation for holders states the same for two groups of servertypes,
that for links does. -/
theorem linkedBy_agrees (readable : holder.IsReadable)
    (agrees : holder.Agrees database serverRow servertype (depth + 1)
      (AppliesToOwners context database serverRow servertype)) :
    (linkedBy context depth holder).Agrees database serverRow servertype depth
      (AppliesToLinks context database serverRow servertype) := by
  intro via reached qualifier name servertypes others condition other isReached
    apart asked askedOther linked linkedOther scopes sees noLeftovers
  obtain ⟨attr, required, isLinked⟩ := linkedBy_eq_ok linked
  obtain ⟨attrOther, requiredOther, isLinkedOther⟩ := linkedBy_eq_ok linkedOther
  obtain rfl := Except.ok.inj (required.symm.trans requiredOther)
  have found := Schema.requireAttribute_eq_ok.mp required
  cases type : attr.type with
  | hostname target =>
      have isStored : attr.table? = some .relationTable := by
        simp [Attribute.table?, type]
      rw [type] at isLinked isLinkedOther
      cases isLinked with
      | hostname held =>
          cases isLinkedOther with
          | hostname heldOther =>
              have isOwner := isColumn_owner (isWord_linkName depth)
              obtain ⟨parts, states⟩ := readable isOwner held
              obtain ⟨otherParts, statesOther⟩ := readable isOwner heldOther
              rw [← (hostnameLink_states valid depth isReached states
                via).allHold_iff,
                ← (hostnameLink_states valid depth isReached statesOther
                  via).allHold_iff,
                Expression.allHold_hasRow, Expression.allHold_hasRow]
              refine exists_congr fun row => and_congr_right fun isRow => ?_
              rw [List.cons_append, List.cons_append, Expression.allHold_cons,
                Expression.allHold_cons, Expression.allHold_append,
                Expression.allHold_append]
              refine and_congr_right fun isVia => and_congr_left fun _ => ?_
              rw [states.allHold_iff, statesOther.allHold_iff]
              rw [Expression.truth, Operand.compared, Operand.value,
                read_link scopes depth rfl] at isVia
              apply agrees isOwner (fun _ => linkName_ne_later) asked askedOther
                held heldOther (sees.link row depth)
              rw [read_link scopes depth rfl]
              exact ⟨⟨attr, _, row, found, isStored, isRow, isVia, rfl⟩,
                noLeftovers ⟨attr, target, found, type⟩⟩
  | supernet target =>
      rw [type] at isLinked isLinkedOther
      cases isLinked
      cases isLinkedOther
      exact Iff.rfl
  | reverseHostname reversed =>
      rw [type] at isLinked isLinkedOther
      cases isLinked
      cases isLinkedOther
      exact Iff.rfl
  | scalar domain =>
      rw [type] at isLinked
      cases isLinked

/-- However many links may be followed, holders are stated alike for two groups
of servertypes. -/
theorem holderWithin_agrees (remaining depth : Nat) :
    (holderWithin context remaining depth).Agrees database serverRow servertype
      depth (AppliesToOwners context database serverRow servertype) := by
  induction remaining generalizing depth with
  | zero =>
      apply holderBy_agrees valid distinct isServer
      · intro _ _ _ _ _ _ _ failed
        cases failed
      · intro _ _ _ _ _ _ _ _ _ _ _ _ failed
        cases failed
  | succ remaining ih =>
      have readable : (holderWithin context remaining (depth + 1)).IsReadable :=
        holderWithin_isReadable valid remaining (depth + 1)
      apply holderBy_agrees valid distinct isServer
        (linkedBy_isReadable valid readable depth)
      exact linkedBy_agrees valid readable (ih (depth + 1))

omit distinct isServer in
/-- Holders are stated by a relation for links that can be read. -/
theorem exists_holderBy (remaining depth : Nat) :
    ∃ relation : Relation, relation.IsReadable ∧
      holderWithin context remaining depth = holderBy context relation := by
  cases remaining with
  | zero =>
      refine ⟨_, ?_, rfl⟩
      intro _ _ _ _ _ _ _ failed
      cases failed
  | succ remaining =>
      refine ⟨_, ?_, rfl⟩
      exact linkedBy_isReadable valid
        (holderWithin_isReadable valid remaining (depth + 1)) depth

/-- Through any number of links, an attribute that is not bound to a servertype
is held by a server of it only without a guard. -/
theorem holderWithin_unbound {remaining : Nat} (sees : Sees scopes serverRow)
    (isReached : IsColumn reached qualifier name)
    (held : holderWithin context remaining depth id reached servertypes =
      .ok condition)
    (candidate : servertype ∈ servertypes)
    (unbound : context.schema.binding? servertype id = none) :
    condition.HasTruth database scopes .yes ↔
      (∀ binding ∈ bindingsOf context id servertypes,
        binding.relatedVia = none) ∧
        database.Equates (serverRow (context.named .serverIdColumn))
          (scopes.read qualifier name) := by
  obtain ⟨relation, readable, isHolder⟩ := exists_holderBy valid remaining depth
  rw [isHolder] at held
  exact holderBy_unbound valid distinct readable isServer sees isReached held
    candidate unbound

/-- Through any number of links, an attribute that a servertype carries itself
is held by a server of it for itself, whatever guards stand beside. -/
theorem holderWithin_direct {remaining : Nat} (sees : Sees scopes serverRow)
    (isReached : IsColumn reached qualifier name)
    (held : holderWithin context remaining depth id reached servertypes =
      .ok condition)
    (candidate : servertype ∈ servertypes)
    (direct : context.schema.BindsDirectly servertype id) :
    condition.HasTruth database scopes .yes ↔
      database.Equates (serverRow (context.named .serverIdColumn))
        (scopes.read qualifier name) := by
  obtain ⟨relation, readable, isHolder⟩ := exists_holderBy valid remaining depth
  rw [isHolder] at held
  obtain ⟨binding, bound, isDirect⟩ := direct
  obtain ⟨strategy, isStrategy, -, same⟩ :=
    holderBy_bound valid distinct readable isServer sees isReached held
      candidate bound
  rw [isDirect] at isStrategy
  rw [same, isStrategy.direct, columnsEqual_hasTruth valid sees isReached]

end Agreement

end Location

end AttributeQuery
