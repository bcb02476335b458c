import AttributeQuery.Proofs.Query.Conditions
import AttributeQuery.Proofs.Schema.Order
import AttributeQuery.Proofs.Sorted
import AttributeQuery.Proofs.Success

/-!
# Relations

What a relation has done when it returns a condition: which strategies there are
for the bindings it found, and which query a link has become. From this, every
condition of a relation can be read, however many links it follows. Its links
stand inside each other, each with the number of links before it in its name.
-/

namespace AttributeQuery

namespace Location

open Sql

/-! ## Strategies -/

/-- A strategy for the bindings through a link, or for the direct ones. -/
structure IsStrategy (context : Context) (relation : Relation) (holder : String)
    (bindings : List Binding) (via : Option AttributeId) (strategy : Strategy) :
    Prop where
  servertypes : strategy.servertypes = boundVia bindings via
  isBound : ∃ binding ∈ bindings, binding.relatedVia = via
  condition :
    match via with
    | none =>
        strategy.condition =
          columnsEqual (serverColumn (context.named .serverIdColumn)) holder
    | some link =>
        relation link holder strategy.servertypes = .ok strategy.condition

/-- Strategies for bindings: one for each way that some of them go. -/
structure AreStrategies (context : Context) (relation : Relation)
    (holder : String) (bindings : List Binding) (strategies : List Strategy) :
    Prop where
  each : ∀ strategy ∈ strategies,
    ∃ via, IsStrategy context relation holder bindings via strategy
  complete : ∀ binding ∈ bindings, ∃ strategy ∈ strategies,
    IsStrategy context relation holder bindings binding.relatedVia strategy

theorem mem_boundVia {bindings : List Binding} {via : Option AttributeId}
    {servertype : ServertypeId} :
    servertype ∈ boundVia bindings via ↔
      ∃ binding ∈ bindings, binding.relatedVia = via ∧
        binding.servertype = servertype := by
  simp [boundVia, and_assoc]

theorem mem_links {bindings : List Binding} {via : AttributeId} :
    via ∈ links bindings ↔ ∃ binding ∈ bindings,
    binding.relatedVia = some via := by
  simp [links]

namespace IsStrategy

variable {context : Context} {relation : Relation} {holder : String}
variable {bindings : List Binding} {via : Option AttributeId}
  {strategy : Strategy}

theorem servertypes_ne_nil
    (isStrategy : IsStrategy context relation holder bindings via strategy) :
    strategy.servertypes ≠ [] := by
  obtain ⟨binding, member, bound⟩ := isStrategy.isBound
  rw [isStrategy.servertypes]
  exact List.ne_nil_of_mem (mem_boundVia.mpr ⟨binding, member, bound, rfl⟩)

/-- Without a link, the outer server is the holder itself. -/
theorem direct
    (isStrategy : IsStrategy context relation holder bindings none strategy) :
    strategy.condition =
      columnsEqual (serverColumn (context.named .serverIdColumn)) holder :=
  isStrategy.condition

end IsStrategy

section Holder

variable {context : Context} {relation : Relation} {holder : String}
variable {bindings : List Binding}

theorem directStrategy_each {strategy : Strategy}
    (member : strategy ∈ directStrategy context holder bindings) :
    IsStrategy context relation holder bindings none strategy := by
  unfold directStrategy at member
  split at member
  next => simp at member
  next bound =>
    rw [List.mem_singleton.mp member]
    obtain ⟨servertype, isBound⟩ := List.exists_mem_of_ne_nil _ bound
    obtain ⟨binding, isBinding, direct, -⟩ := mem_boundVia.mp isBound
    exact ⟨rfl, ⟨binding, isBinding, direct⟩, rfl⟩

theorem directStrategy_complete {binding : Binding}
    (member : binding ∈ bindings) (direct : binding.relatedVia = none) :
    ∃ strategy ∈ directStrategy context holder bindings,
      IsStrategy context relation holder bindings none strategy := by
  unfold directStrategy
  split
  next notBound =>
    have isBound := mem_boundVia.mpr ⟨binding, member, direct, rfl⟩
    simp [notBound] at isBound
  next => exact ⟨_, List.mem_singleton_self _, rfl,
    ⟨binding, member, direct⟩, rfl⟩

theorem linkStrategy_isStrategy {via : AttributeId} {strategy : Strategy}
    (isLink : via ∈ links bindings)
    (found : linkStrategy relation holder bindings via = .ok strategy) :
    IsStrategy context relation holder bindings (some via) strategy := by
  obtain ⟨condition, related, returned⟩ := bind_eq_ok.mp found
  rw [← pure_eq_ok.mp returned]
  exact ⟨rfl, mem_links.mp isLink, related⟩

/-- What the condition of a holder is: that of its only strategy, or that of all
strategies with the servertypes they are for. -/
theorem holderBy_eq_ok {id : AttributeId} {servertypes : List ServertypeId}
    {condition : Condition}
    (held : holderBy context relation id holder servertypes = .ok condition) :
    ∃ strategies,
      AreStrategies context relation holder (bindingsOf context id servertypes)
        strategies ∧
      strategies ≠ [] ∧
      ((∃ strategy, strategies = [strategy] ∧ condition = strategy.condition ∧
          needsGuard servertypes (bindingsOf context id servertypes)
            strategies = false) ∨
        condition = anyGuarded context strategies) := by
  unfold holderBy at held
  generalize bindingsOf context id servertypes = bindings at held
  cases bindings with
  | nil => simp at held
  | cons first rest =>
      obtain ⟨related, computed, chosen⟩ := bind_eq_ok.mp held
      have found := mapM_eq_ok.mp computed
      have strategies : AreStrategies context relation holder (first :: rest)
          (directStrategy context holder (first :: rest) ++ related) := by
        refine ⟨fun strategy member => ?_, fun binding member => ?_⟩
        · rcases List.mem_append.mp member with direct | isRelated
          · exact ⟨none, directStrategy_each direct⟩
          · obtain ⟨via, isLink, computedFor⟩ :=
              exists_of_forall₂_right found isRelated
            exact ⟨some via, linkStrategy_isStrategy isLink computedFor⟩
        · cases bound : binding.relatedVia with
          | none =>
              obtain ⟨strategy, isDirect, isStrategy⟩ :=
                directStrategy_complete member bound
              exact ⟨strategy, List.mem_append_left _ isDirect, isStrategy⟩
          | some via =>
              have isLink := mem_links.mpr ⟨binding, member, bound⟩
              obtain ⟨strategy, isRelated, computedFor⟩ :=
                exists_of_forall₂_left found isLink
              exact ⟨strategy, List.mem_append_right _ isRelated,
                linkStrategy_isStrategy isLink computedFor⟩
      obtain ⟨strategy, isOne, -⟩ :=
        strategies.complete first List.mem_cons_self
      refine ⟨_, strategies, List.ne_nil_of_mem isOne, ?_⟩
      dsimp only at chosen
      split at chosen
      next only noGuard =>
        exact .inl ⟨_, only, (pure_eq_ok.mp chosen).symm, noGuard⟩
      next => exact .inr (pure_eq_ok.mp chosen).symm

end Holder

/-! ## Links -/

/-- The condition of a server that is reached through a link, by the type of the
link. -/
inductive IsLinked (context : Context) (depth : Nat) (holder : Relation)
    (via : AttributeId) (reached : String) (servertypes : List ServertypeId) :
    AttributeType → Condition → Prop where
  | hostname {target : Option ServertypeId} {owner : Condition}
      (held : holder via (linkName depth ++ ".server_id") servertypes =
        .ok owner) :
      IsLinked context depth holder via reached servertypes (.hostname target)
        (existsRow (context.named .relationTable) (linkName depth)
          [columnIs (linkName depth ++ ".attribute_id") via, owner,
            columnsEqual (linkName depth ++ ".value") reached])
  | supernet {target : ServertypeId} :
      IsLinked context depth holder via reached servertypes (.supernet target)
        (existsRow (context.named .serverTable) (linkName depth)
          [columnIs (linkName depth ++ "." ++ context.named .servertypeColumn)
            target, containsServer context (linkName depth),
            columnsEqual
              (linkName depth ++ "." ++ context.named .serverIdColumn) reached])
  | reverseHostname {reversed : AttributeId} :
      IsLinked context depth holder via reached servertypes
        (.reverseHostname reversed)
            (existsRow (context.named .relationTable) (linkName depth)
              [columnIs (linkName depth ++ ".attribute_id") reversed,
                columnsEqual (linkName depth ++ ".value")
                  (serverColumn (context.named .serverIdColumn)),
                columnsEqual (linkName depth ++ ".server_id") reached])

theorem linkedBy_eq_ok {context : Context} {depth : Nat} {holder : Relation}
    {via : AttributeId} {reached : String} {servertypes : List ServertypeId}
    {condition : Condition}
    (linked : linkedBy context depth holder via reached servertypes =
      .ok condition) :
    ∃ attr, context.schema.requireAttribute via = .ok attr ∧
      IsLinked context depth holder via reached servertypes attr.type
        condition := by
  obtain ⟨attr, found, linked⟩ := bind_eq_ok.mp linked
  refine ⟨attr, mapError_eq_ok.mp found, ?_⟩
  cases type : attr.type with
  | scalar domain => simp [type] at linked
  | hostname target =>
      simp only [type] at linked
      obtain ⟨owner, held, returned⟩ := bind_eq_ok.mp linked
      rw [← pure_eq_ok.mp returned]
      exact .hostname held
  | supernet target =>
      simp only [type] at linked
      obtain ⟨_, _, returned⟩ := bind_eq_ok.mp linked
      rw [← pure_eq_ok.mp returned]
      exact .supernet
  | reverseHostname reversed =>
      simp only [type] at linked
      rw [← pure_eq_ok.mp linked]
      exact .reverseHostname

/-! ## Holders -/

/-- The conditions of a relation can be read. -/
def Relation.IsReadable (relation : Relation) : Prop :=
  ∀ {id : AttributeId} {reached qualifier name : String}
    {servertypes : List ServertypeId} {condition : Condition},
    IsColumn reached qualifier name →
    relation id reached servertypes = .ok condition → ∃ parts,
    condition.States parts

section Readable

variable {context : Context} (valid : context.layout.check = .ok ())
variable {relation holder : Relation}

include valid

theorem IsStrategy.states (readable : relation.IsReadable)
    {reached qualifier name : String}
    (isReached : IsColumn reached qualifier name) {bindings : List Binding}
    {via : Option AttributeId} {strategy : Strategy}
    (isStrategy : IsStrategy context relation reached bindings via strategy) :
    ∃ parts, strategy.condition.States parts := by
  cases via with
  | none =>
      rw [isStrategy.direct]
      exact ⟨_, columnsEqual_states (isColumn_server valid _) isReached⟩
  | some link => exact readable isReached isStrategy.condition

theorem holderBy_isReadable (readable : relation.IsReadable) :
    (holderBy context relation).IsReadable := by
  intro id reached qualifier name servertypes condition isReached held
  obtain ⟨strategies, areStrategies, isSome, chosen⟩ := holderBy_eq_ok held
  have each : ∀ strategy ∈ strategies, ∃ parts,
      strategy.condition.States parts := by
    intro strategy member
    obtain ⟨via, isStrategy⟩ := areStrategies.each strategy member
    exact isStrategy.states valid readable isReached
  rcases chosen with ⟨strategy, rfl, rfl, -⟩ | rfl
  · exact each strategy List.mem_cons_self
  · obtain ⟨partLists, stated⟩ := exists_forall₂ each
    refine ⟨_,
      anyGuarded_states valid isSome (fun strategy member => ?_) stated⟩
    obtain ⟨via, isStrategy⟩ := areStrategies.each strategy member
    exact isStrategy.servertypes_ne_nil

theorem linkedBy_isReadable (readable : holder.IsReadable) (depth : Nat) :
    (linkedBy context depth holder).IsReadable := by
  intro via reached qualifier name servertypes condition isReached linked
  obtain ⟨attr, -, isLinked⟩ := linkedBy_eq_ok linked
  generalize attr.type = type at isLinked
  cases isLinked with
  | hostname held =>
      obtain ⟨ownerParts, states⟩ :=
        readable (isColumn_owner (isWord_linkName depth)) held
      exact ⟨_, hostnameLink_states valid depth isReached states via⟩
  | supernet => exact ⟨_, supernetLink_states valid depth isReached _⟩
  | reverseHostname => exact ⟨_, reverseLink_states valid depth isReached _⟩

theorem holderWithin_isReadable (remaining depth : Nat) :
    (holderWithin context remaining depth).IsReadable := by
  induction remaining generalizing depth with
  | zero =>
      refine holderBy_isReadable valid fun _ failed => ?_
      simp at failed
  | succ remaining ih =>
      exact holderBy_isReadable valid (linkedBy_isReadable valid (ih _) depth)

end Readable

/-! ## Names in scope -/

/-- The names of links that follow each other after some others, the last one
first. -/
def linkNames (depth count : Nat) : List String :=
  ((List.range' depth count).map linkName).reverse

theorem linkNames_succ (depth count : Nat) :
    linkNames depth (count + 1) = linkNames (depth + 1) count ++
      [linkName depth] := by
  rw [linkNames, List.range'_succ, List.map_cons, List.reverse_cons, linkNames]

/-- The conditions of a relation are in scope where the row that is reached
is. -/
structure Relation.IsScoped (IsScope : List String → Prop) (names : List String)
    (relation : Relation) : Prop where
  each : ∀ {id : AttributeId} {reached qualifier name : String}
    {servertypes : List ServertypeId} {condition : Condition},
    IsColumn reached qualifier name → qualifier ∈ names →
    relation id reached servertypes = .ok condition →
    condition.IsScoped IsScope names

section Scoping

variable {IsScope : List String → Prop} {names : List String}
variable {context : Context} (valid : context.layout.check = .ok ())
variable {relation holder : Relation}

include valid

theorem holderBy_isScoped (outer : "server" ∈ names)
    (inScope : relation.IsScoped IsScope names) :
    (holderBy context relation).IsScoped IsScope names := by
  refine ⟨fun {id reached qualifier name servertypes
    condition} isReached isName held => ?_⟩
  obtain ⟨strategies, areStrategies, isSome, chosen⟩ := holderBy_eq_ok held
  have each : ∀ strategy ∈ strategies,
      strategy.condition.IsScoped IsScope names := by
    intro strategy member
    obtain ⟨via, isStrategy⟩ := areStrategies.each strategy member
    cases via with
    | none =>
        rw [isStrategy.direct]
        exact columnsEqual_isScoped (isColumn_server valid _)
          isReached outer isName
    | some link => exact inScope.each isReached isName isStrategy.condition
  rcases chosen with ⟨strategy, rfl, rfl, -⟩ | rfl
  · exact each strategy List.mem_cons_self
  · refine anyGuarded_isScoped valid outer isSome
      (fun strategy member => ?_) each
    obtain ⟨via, isStrategy⟩ := areStrategies.each strategy member
    exact isStrategy.servertypes_ne_nil

/-- The row of a link is named in its own query and in those inside it. -/
theorem linkedBy_isScoped (outer : "server" ∈ names) (depth : Nat)
    (isScope : IsScope (linkName depth :: names))
    (inScope : holder.IsScoped IsScope (linkName depth :: names)) :
    (linkedBy context depth holder).IsScoped IsScope names := by
  refine ⟨fun {via reached qualifier name servertypes
    condition} isReached isName linked => ?_⟩
  obtain ⟨attr, -, isLinked⟩ := linkedBy_eq_ok linked
  have isRowName := isWord_linkName depth
  have isRow : linkName depth ∈ linkName depth :: names := List.mem_cons_self
  have isOuter : "server" ∈ linkName depth :: names :=
    List.mem_cons_of_mem _ outer
  have isInner : qualifier ∈ linkName depth :: names :=
    List.mem_cons_of_mem _ isName
  have isColumn (field : LayoutField) :
      IsColumn (linkName depth ++ "." ++ context.named field) (linkName depth)
        (context.named field) := ⟨isRowName, isWord_named valid field, rfl⟩
  generalize attr.type = type at isLinked
  cases isLinked with
  | hostname held =>
      refine existsRow_isScoped (isWord_named valid _) isRowName isScope
        (by simp) ?_
      simp only [List.forall_mem_cons]
      exact ⟨columnIs_isScoped (isColumn_attribute isRowName) isRow via,
        inScope.each (isColumn_owner isRowName) isRow held,
        columnsEqual_isScoped (isColumn_value isRowName) isReached isRow
          isInner, nofun⟩
  | supernet =>
      refine existsRow_isScoped (isWord_named valid _) isRowName isScope
        (by simp) ?_
      simp only [List.forall_mem_cons]
      exact ⟨columnIs_isScoped (isColumn _) isRow _,
        containsServer_isScoped valid isOuter isRowName isRow,
        columnsEqual_isScoped (isColumn _) isReached isRow isInner, nofun⟩
  | reverseHostname =>
      refine existsRow_isScoped (isWord_named valid _) isRowName isScope
        (by simp) ?_
      simp only [List.forall_mem_cons]
      exact ⟨columnIs_isScoped (isColumn_attribute isRowName) isRow _,
        columnsEqual_isScoped (isColumn_value isRowName)
          (isColumn_server valid _) isRow isOuter,
        columnsEqual_isScoped (isColumn_owner isRowName) isReached isRow
          isInner, nofun⟩

/-- Links that follow each other stand in the queries of those before them, and
each has the next number. -/
theorem holderWithin_isScoped (remaining depth : Nat) (outer : "server" ∈ names)
    (areScopes : ∀ count ≤ remaining,
      IsScope (linkNames depth count ++ names)) :
    (holderWithin context remaining depth).IsScoped IsScope names := by
  induction remaining generalizing depth names with
  | zero =>
      refine holderBy_isScoped valid outer ⟨fun _ _ failed => ?_⟩
      simp at failed
  | succ remaining ih =>
      have isScope : IsScope (linkName depth :: names) := areScopes 1 (by omega)
      have later : ∀ count ≤ remaining,
          IsScope (linkNames (depth + 1) count ++ linkName depth :: names) := by
        intro count bounded
        have extended := areScopes (count + 1) (by omega)
        rwa [linkNames_succ, List.append_assoc] at extended
      have inScope := ih (depth + 1) (List.mem_cons_of_mem _ outer) later
      exact holderBy_isScoped valid outer
        (linkedBy_isScoped valid outer depth isScope inScope)

end Scoping

/-! ## Other contexts -/

section Congruence

variable {context other : Context}
  (same : other.schema.SameContents context.schema)
  (sameOptions : other.options = context.options)
  (sameLayout : other.layout = context.layout)

include same sameOptions sameLayout

theorem holderBy_congr (relation : Relation) :
    holderBy other relation = holderBy context relation := by
  cases context
  cases other
  cases sameOptions
  cases sameLayout
  funext id holder servertypes
  rw [holderBy, holderBy, bindingsOf, bindingsOf, same.bindings]
  rfl

theorem linkedBy_congr (depth : Nat) (holder : Relation) :
    linkedBy other depth holder = linkedBy context depth holder := by
  cases context
  cases other
  cases sameOptions
  cases sameLayout
  funext via reached servertypes
  rw [linkedBy, linkedBy, same.requireAttribute_eq]
  rfl

/-- Holders depend on the contents of the schema and on the settings, and
neither on the servertypes of a context nor on hostnames. -/
theorem holderWithin_congr (remaining depth : Nat) :
    holderWithin other remaining depth =
      holderWithin context remaining depth := by
  induction remaining generalizing depth with
  | zero =>
      rw [holderWithin, holderWithin,
        holderBy_congr same sameOptions sameLayout, sameOptions]
  | succ remaining ih =>
      rw [holderWithin, holderWithin,
        holderBy_congr same sameOptions sameLayout, ih,
        linkedBy_congr same sameOptions sameLayout]

theorem stored_congr (sameServertypes : other.servertypes = context.servertypes)
    (attr : Attribute) (table : String) :
    stored other attr table = stored context attr table := by
  rw [stored, stored, sameOptions, sameServertypes,
    holderWithin_congr same sameOptions sameLayout]

end Congruence

end Location

/-! ## Stored attributes -/

/-- The table that stores the values of an attribute, if there is one: those of
links that name a server, and those of scalars that are no columns of
servers. -/
def Attribute.table? (attr : Attribute) : Option LayoutField :=
  match attr.type with
  | .scalar domain => if attr.isSpecial then none else some (.sideTable domain)
  | .hostname _ => some .relationTable
  | .reverseHostname _ | .supernet _ => none

theorem Attribute.exists_table {attr : Attribute}
    (notSpecial : attr.special = none)
    (isStored : (∃ domain, attr.type = .scalar domain) ∨ ∃ target,
      attr.type = .hostname target) :
    ∃ table, attr.table? = some table := by
  cases isStored with
  | inl isScalar =>
      obtain ⟨domain, type⟩ := isScalar
      exact ⟨.sideTable domain, by simp [table?, type, isSpecial, notSpecial]⟩
  | inr isHostname =>
      obtain ⟨target, type⟩ := isHostname
      exact ⟨.relationTable, by simp [table?, type]⟩

/-- A stored attribute is located in its table. -/
theorem Location.resolve_eq_stored {context : Context} {attr : Attribute}
    (notSpecial : attr.special = none) {table : LayoutField}
    (isStored : attr.table? = some table) :
    resolve context attr = stored context attr (context.named table) := by
  unfold resolve ofType
  rw [notSpecial]
  cases type : attr.type with
  | hostname target =>
      simp only [Attribute.table?, type] at isStored
      obtain rfl := Option.some.inj isStored
      rfl
  | scalar domain =>
      simp only [Attribute.table?, type, Attribute.isSpecial,
        notSpecial] at isStored
      obtain rfl := Option.some.inj isStored
      rfl
  | supernet target => simp [Attribute.table?, type] at isStored
  | reverseHostname reversed => simp [Attribute.table?, type] at isStored

/-- Contexts with the same settings locate an attribute alike if they do so
where it is stored. -/
theorem Location.resolve_congr {context other : Context}
    (sameOptions : other.options = context.options)
    (sameLayout : other.layout = context.layout) {attr : Attribute}
    (sameStored : ∀ table, attr.table? = some table →
      stored other attr (context.named table) =
        stored context attr (context.named table)) :
    resolve other attr = resolve context attr := by
  have sameNames : other.named = context.named := by
    funext field
    rw [Context.named, Context.named, sameLayout]
  cases special : attr.special with
  | some special => simp only [resolve, special]
  | none =>
      cases isStored : attr.table? with
      | some table =>
          rw [resolve_eq_stored special isStored,
            resolve_eq_stored special isStored, sameNames,
            sameStored table isStored]
      | none =>
          unfold resolve ofType
          rw [special]
          cases type : attr.type with
          | hostname target => simp [Attribute.table?, type] at isStored
          | scalar domain =>
              simp [Attribute.table?, type, Attribute.isSpecial,
                special] at isStored
          | supernet target =>
              simp only [containsServer, Context.dialect,
                sameOptions, sameNames]
          | reverseHostname reversed => simp only [sameNames]

/-! ## Locations of attributes -/

namespace Location

variable {context : Context} {attr : Attribute} {location : Location}

/-- The rows of a table that the holder of an attribute owns. -/
theorem stored_eq_ok {table : String}
    (found : stored context attr table = .ok location) :
    ∃ owner,
      holderWithin context context.options.maxRelationDepth 0 attr.id
        "sub.server_id" context.servertypes = .ok owner ∧
      location = .existence table [owner, columnIs "sub.attribute_id" attr.id]
        "sub.value" none := by
  obtain ⟨owner, held, returned⟩ := bind_eq_ok.mp found
  exact ⟨owner, held, (pure_eq_ok.mp returned).symm⟩

/-- Where an attribute can be located: at a column of the outer server, or at
the rows of a table by its type. -/
inductive IsResolved (context : Context) (attr : Attribute) :
    Location → Prop where
  | column {special : SpecialField} (isSpecial : attr.special = some special) :
      IsResolved context attr (.column (serverColumn special.column))
  | supernet {target : ServertypeId} (notSpecial : attr.special = none)
      (type : attr.type = .supernet target) :
      IsResolved context attr (.existence (context.named .serverTable)
        [columnIs ("sub." ++ context.named .servertypeColumn) target,
          containsServer context "sub"]
        ("sub." ++ context.named .serverIdColumn)
        (some ("sub." ++ context.named .networkColumn)))
  | reverseHostname {reversed : AttributeId} (notSpecial : attr.special = none)
      (type : attr.type = .reverseHostname reversed) :
      IsResolved context attr (.existence (context.named .relationTable)
        [columnIs "sub.attribute_id" reversed,
          columnsEqual "sub.value"
            (serverColumn (context.named .serverIdColumn))]
        "sub.server_id" none)
  | stored {table : LayoutField} {owner : Condition}
      (notSpecial : attr.special = none) (isStored : attr.table? = some table)
      (held : holderWithin context context.options.maxRelationDepth 0 attr.id
        "sub.server_id" context.servertypes = .ok owner) :
      IsResolved context attr (.existence (context.named table)
        [owner, columnIs "sub.attribute_id" attr.id] "sub.value" none)

theorem resolve_eq_ok (resolved : resolve context attr = .ok location) :
    IsResolved context attr location := by
  cases special : attr.special with
  | some field =>
      simp only [resolve, special] at resolved
      rw [← Except.ok.inj resolved]
      exact .column special
  | none =>
      cases isStored : attr.table? with
      | some table =>
          rw [resolve_eq_stored special isStored] at resolved
          obtain ⟨owner, held, rfl⟩ := stored_eq_ok resolved
          exact .stored special isStored held
      | none =>
          simp only [resolve, ofType, special] at resolved
          cases type : attr.type with
          | hostname target => simp [Attribute.table?, type] at isStored
          | scalar domain =>
              simp [Attribute.table?, type, Attribute.isSpecial,
                special] at isStored
          | supernet target =>
              simp only [type] at resolved
              obtain ⟨-, returned⟩ := check_bind_eq_ok.mp resolved
              rw [← pure_eq_ok.mp returned]
              exact .supernet special type
          | reverseHostname reversed =>
              simp only [type] at resolved
              rw [← pure_eq_ok.mp resolved]
              exact .reverseHostname special type

end Location

end AttributeQuery
