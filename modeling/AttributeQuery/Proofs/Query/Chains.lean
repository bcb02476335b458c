import AttributeQuery.Proofs.Query.Relation
import AttributeQuery.Proofs.Schema.Construction

/-!
# Chains of links

An attribute that is related via a link is carried by the server that the link
leads to, and the link may be related via another one. A location is found
exactly when all these chains end within the bound on links, every attribute on
them is bound to a servertype it is asked for, and the dialect has what the
links need.
-/

namespace AttributeQuery

/-! ## Chains -/

namespace Schema

variable (schema : Schema)

/-- An attribute is bound to some servertype of a group. -/
def IsBound (group : Set ServertypeId) (id : AttributeId) : Prop :=
  ∃ binding ∈ schema.bindings id, binding.servertype ∈ group

/-- The servertypes of a group to which an attribute is bound through a link. -/
def boundThrough (group : Set ServertypeId) (id via : AttributeId) :
    Set ServertypeId :=
  {servertype | ∃ binding ∈ schema.bindings id,
    binding.servertype ∈ group ∧ binding.relatedVia = some via ∧
      binding.servertype = servertype}

/-- An attribute is a link that is stored as a server id. -/
def IsHostname (id : AttributeId) : Prop :=
  ∃ attr target, schema.findAttribute? id = some attr ∧
    attr.type = .hostname target

/-- An attribute is a link to the servers whose networks contain that of a
server. -/
def IsSupernet (id : AttributeId) : Prop :=
  ∃ attr target, schema.findAttribute? id = some attr ∧
    attr.type = .supernet target

/-- Links that follow one another from an attribute, asked for the servertypes
of a group, to a last attribute, asked for those of a last group. The bindings
of each attribute to its group name the next link, which is asked for the
servertypes bound through it. Only stored links are followed further. -/
inductive Chain : Set ServertypeId → AttributeId → List AttributeId →
    Set ServertypeId → AttributeId → Prop where
  | here (group : Set ServertypeId) (id : AttributeId) :
      Chain group id [] group id
  | through {group lastGroup : Set ServertypeId} {id via last : AttributeId}
      {vias : List AttributeId}
      (isNamed : (schema.boundThrough group id via).Nonempty)
      (isFollowed : vias ≠ [] → schema.IsHostname via)
      (rest : Chain (schema.boundThrough group id via) via vias lastGroup
        last) :
      Chain group id (via :: vias) lastGroup last

/-- All chains from an attribute end within a number of links, at attributes
that are bound where their bindings are asked for. -/
structure IsReachable (dialect : Dialect) (limit : Nat)
    (group : Set ServertypeId) (id : AttributeId) : Prop where
  /-- The bindings of the attribute itself and of stored links are asked for. -/
  isBound : ∀ {vias lastGroup last}, schema.Chain group id vias lastGroup last →
    (vias ≠ [] → schema.IsHostname last) → schema.IsBound lastGroup last
  length_le : ∀ {vias lastGroup last},
    schema.Chain group id vias lastGroup last →
    vias.length ≤ limit
  isSupported : dialect = .sqlite → ∀ {vias lastGroup last},
    schema.Chain group id vias lastGroup last → ∀ via ∈ vias,
    ¬ schema.IsSupernet via

variable {schema} {dialect : Dialect} {limit : Nat} {group : Set ServertypeId}
  {id : AttributeId}

/-- Without any link allowed, an attribute is reachable where it is bound
directly. -/
theorem isReachable_zero :
    schema.IsReachable dialect 0 group id ↔
      schema.IsBound group id ∧ ∀ via,
      ¬ (schema.boundThrough group id via).Nonempty := by
  constructor
  · intro reachable
    apply And.intro (reachable.isBound (.here group id) (by simp))
    intro via isNamed
    have short := reachable.length_le (.through isNamed (by simp) (.here _ via))
    simp at short
  · intro ⟨bound, noLink⟩
    constructor
    · intro vias lastGroup last chain asked
      cases chain with
      | here => exact bound
      | through isNamed => exact absurd isNamed (noLink _)
    · intro vias lastGroup last chain
      cases chain with
      | here => simp
      | through isNamed => exact absurd isNamed (noLink _)
    · intro isSqlite vias lastGroup last chain
      cases chain with
      | here => simp
      | through isNamed => exact absurd isNamed (noLink _)

/-- A chain without links ends where it starts, so at a stored link if it starts
at one. -/
theorem Chain.isHostname_last {vias : List AttributeId}
    {lastGroup : Set ServertypeId} {via last : AttributeId}
    (chain : schema.Chain group via vias lastGroup last)
    (isHostname : schema.IsHostname via)
    (asked : vias ≠ [] → schema.IsHostname last) :
    schema.IsHostname last := by
  cases chain with
  | here => exact isHostname
  | through => exact asked (by simp)

theorem Chain.isHostname_first {vias : List AttributeId}
    {lastGroup : Set ServertypeId} {via last : AttributeId}
    (chain : schema.Chain group via vias lastGroup last)
    (isHostname : schema.IsHostname last)
    (isFollowed : vias ≠ [] → schema.IsHostname via) :
    schema.IsHostname via := by
  cases chain with
  | here => exact isHostname
  | through => exact isFollowed (by simp)

/-- Behind a stored link, one link less is needed. -/
theorem IsReachable.through
    (reachable : schema.IsReachable dialect (limit + 1) group id)
    {via : AttributeId} (isNamed : (schema.boundThrough group id via).Nonempty)
    (isHostname : schema.IsHostname via) :
    schema.IsReachable dialect limit
      (schema.boundThrough group id via) via := by
  constructor
  · intro vias lastGroup last chain asked
    apply reachable.isBound (.through isNamed (fun _ => isHostname) chain)
    exact fun _ => chain.isHostname_last isHostname asked
  · intro vias lastGroup last chain
    have short :=
      reachable.length_le (.through isNamed (fun _ => isHostname) chain)
    simpa using short
  · intro isSqlite vias lastGroup last chain via member
    exact reachable.isSupported isSqlite
      (.through isNamed (fun _ => isHostname) chain) via
      (List.mem_cons_of_mem _ member)

/-- With one more link allowed, the links that an attribute is bound through
have to be supported, and reachable themselves if they are stored. -/
theorem isReachable_succ :
    schema.IsReachable dialect (limit + 1) group id ↔
      schema.IsBound group id ∧ ∀ via,
        (schema.boundThrough group id via).Nonempty →
        (dialect = .sqlite → ¬ schema.IsSupernet via) ∧
        (schema.IsHostname via →
          schema.IsReachable dialect limit
            (schema.boundThrough group id via) via) := by
  constructor
  · intro reachable
    apply And.intro (reachable.isBound (.here group id) (by simp))
    intro via isNamed
    apply And.intro _ (reachable.through isNamed)
    intro isSqlite
    exact reachable.isSupported isSqlite
      (.through isNamed (by simp) (.here _ via)) via List.mem_cons_self
  · intro ⟨bound, each⟩
    constructor
    · intro vias lastGroup last chain asked
      cases chain with
      | here => exact bound
      | through isNamed isFollowed rest =>
          have isLast := asked (by simp)
          have reachable :=
            (each _ isNamed).2 (rest.isHostname_first isLast isFollowed)
          exact reachable.isBound rest fun _ => isLast
    · intro vias lastGroup last chain
      cases chain with
      | here => simp
      | @through _ _ _ _ _ others isNamed isFollowed rest =>
          by_cases noOther : others = []
          · simp [noOther]
          · have reachable := (each _ isNamed).2 (isFollowed noOther)
            simpa using reachable.length_le rest
    · intro isSqlite vias lastGroup last chain via member
      cases chain with
      | here => simp at member
      | through isNamed isFollowed rest =>
          cases member with
          | head => exact (each _ isNamed).1 isSqlite
          | tail _ member =>
              have reachable :=
                (each _ isNamed).2 (isFollowed (List.ne_nil_of_mem member))
              exact reachable.isSupported isSqlite rest via member

end Schema

/-! ## Relations -/

namespace Location

variable {context : Context} {relation holder : Relation} {id via : AttributeId}
  {reached : String} {servertypes : List ServertypeId}

/-- The servertypes of a list. -/
def groupOf (servertypes : List ServertypeId) : Set ServertypeId :=
  {servertype | servertype ∈ servertypes}

theorem mem_bindingsOf_iff {binding : Binding} :
    binding ∈ bindingsOf context id servertypes ↔
      binding ∈ context.schema.bindings id ∧
        binding.servertype ∈ groupOf servertypes := by
  simp [bindingsOf, groupOf]

theorem groupOf_boundVia :
    groupOf (boundVia (bindingsOf context id servertypes) (some via)) =
      context.schema.boundThrough (groupOf servertypes) id via := by
  ext servertype
  simp only [groupOf, Set.mem_ofPred_eq, mem_boundVia, mem_bindingsOf_iff,
    Schema.boundThrough]
  constructor
  · intro ⟨binding, ⟨isBinding, isAsked⟩, isVia, isServertype⟩
    exact ⟨binding, isBinding, isAsked, isVia, isServertype⟩
  · intro ⟨binding, isBinding, isAsked, isVia, isServertype⟩
    exact ⟨binding, ⟨isBinding, isAsked⟩, isVia, isServertype⟩

theorem mem_links_iff_nonempty :
    via ∈ links (bindingsOf context id servertypes) ↔
      (context.schema.boundThrough (groupOf servertypes) id via).Nonempty := by
  rw [mem_links]
  constructor
  · intro ⟨binding, isBound, isVia⟩
    obtain ⟨isBinding, isAsked⟩ := mem_bindingsOf_iff.mp isBound
    exact ⟨binding.servertype, binding, isBinding, isAsked, isVia, rfl⟩
  · intro ⟨servertype, binding, isBinding, isAsked, isVia, _⟩
    exact ⟨binding, mem_bindingsOf_iff.mpr ⟨isBinding, isAsked⟩, isVia⟩

/-- A holder is not found when the attribute is bound to none of the
servertypes, or a server that a link leads to is not found. -/
theorem holderBy_eq_error {error : CompileError}
    (failed : holderBy context relation id reached servertypes = .error error) :
    (¬ context.schema.IsBound (groupOf servertypes) id ∧
      error = .unreachableAttribute id) ∨
      ∃ via, (context.schema.boundThrough (groupOf servertypes) id
        via).Nonempty ∧
        relation via reached
          (boundVia (bindingsOf context id servertypes) (some via)) =
          .error error := by
  unfold holderBy at failed
  split at failed
  next noBinding =>
    left
    constructor
    · intro ⟨binding, isBinding, isAsked⟩
      have isBound := mem_bindingsOf_iff.mpr ⟨isBinding, isAsked⟩
      simp [noBinding] at isBound
    · exact (Except.error.inj failed).symm
  next =>
    right
    cases bind_eq_error.mp failed with
    | inl failedLinks =>
        obtain ⟨via, isLink, failedLink⟩ := exists_error_of_mapM failedLinks
        cases bind_eq_error.mp failedLink with
        | inl failedVia =>
            exact ⟨via, mem_links_iff_nonempty.mp isLink, failedVia⟩
        | inr returned =>
            obtain ⟨condition, -, returned⟩ := returned
            cases returned
    | inr chosen =>
        obtain ⟨related, -, chosen⟩ := chosen
        dsimp only at chosen
        split at chosen
        · cases chosen
        · cases chosen

theorem holderBy_isOk_iff :
    (∃ condition,
      holderBy context relation id reached servertypes = .ok condition) ↔
      context.schema.IsBound (groupOf servertypes) id ∧
        ∀ via, (context.schema.boundThrough (groupOf servertypes) id
          via).Nonempty →
          ∃ condition,
            relation via reached
              (boundVia (bindingsOf context id servertypes) (some via)) =
              .ok condition := by
  constructor
  · intro ⟨condition, held⟩
    obtain ⟨strategies, areStrategies, isSome, -⟩ := holderBy_eq_ok held
    constructor
    · obtain ⟨strategy, member⟩ := List.exists_mem_of_ne_nil strategies isSome
      obtain ⟨via, isStrategy⟩ := areStrategies.each strategy member
      obtain ⟨binding, isBound, -⟩ := isStrategy.isBound
      exact ⟨binding, mem_bindingsOf_iff.mp isBound⟩
    · intro via isNamed
      obtain ⟨binding, isBound, isVia⟩ :=
        mem_links.mp (mem_links_iff_nonempty.mpr isNamed)
      obtain ⟨strategy, -, isStrategy⟩ := areStrategies.complete binding isBound
      rw [isVia] at isStrategy
      have related := isStrategy.condition
      simp only [isStrategy.servertypes] at related
      exact ⟨strategy.condition, related⟩
  · intro ⟨isBound, each⟩
    cases computed : holderBy context relation id reached servertypes with
    | ok condition => exact ⟨condition, rfl⟩
    | error failure =>
        cases holderBy_eq_error computed with
        | inl notBound => exact absurd isBound notBound.1
        | inr failedVia =>
            obtain ⟨via, isNamed, failed⟩ := failedVia
            obtain ⟨condition, related⟩ := each via isNamed
            rw [failed] at related
            cases related

theorem require_eq_error {dialect : Dialect} {feature : Feature}
    {error : CompileError} (failed : dialect.require feature = .error error) :
    dialect = .sqlite ∧ error = .unsupportedByDialect .sqlite feature := by
  cases dialect with
  | postgres => simp [Dialect.require, Dialect.supports] at failed
  | sqlite => exact ⟨rfl, (Except.error.inj failed).symm⟩

/-- A server is not found through a declared link when the holder of a stored
link is not, or the dialect does not have what the link needs. -/
theorem linkedBy_eq_error {depth : Nat} {error : CompileError}
    (declared : ∃ attr,
      context.schema.findAttribute? via = some attr ∧ attr.isLink = true)
    (failed : linkedBy context depth holder via reached servertypes =
      .error error) :
    (context.schema.IsHostname via ∧
        holder via (linkName depth ++ ".server_id") servertypes =
          .error error) ∨
      (context.dialect = .sqlite ∧ context.schema.IsSupernet via ∧
        error = .unsupportedByDialect .sqlite .networkContainment) := by
  obtain ⟨attr, found, isLink⟩ := declared
  have required : (context.schema.requireAttribute via).mapError
      CompileError.schema = .ok attr :=
    mapError_eq_ok.mpr (Schema.requireAttribute_eq_ok.mpr found)
  simp only [linkedBy, required] at failed
  cases type : attr.type with
  | scalar domain =>
      simp [Attribute.isLink, AttributeType.isLink, type] at isLink
  | hostname target =>
      left
      apply And.intro ⟨attr, target, found, type⟩
      simp only [bind, Except.bind, type] at failed
      split at failed
      next notHeld => rw [notHeld, failed]
      next => cases failed
  | supernet target =>
      right
      simp only [bind, Except.bind, type] at failed
      split at failed
      next notSupported =>
        rw [Except.error.inj failed] at notSupported
        obtain ⟨isSqlite, isError⟩ := require_eq_error notSupported
        exact ⟨isSqlite, ⟨attr, target, found, type⟩, isError⟩
      next => cases failed
  | reverseHostname reversed =>
      simp only [bind, Except.bind, type] at failed
      cases failed

/-- A server is found through a declared link when the dialect has what the link
needs, and the holder of the link is found if it is stored. -/
theorem linkedBy_isOk_iff {depth : Nat} (declared : ∃ attr,
      context.schema.findAttribute? via = some attr ∧ attr.isLink = true) :
    (∃ condition, linkedBy context depth holder via reached servertypes =
      .ok condition) ↔
      (context.dialect = .sqlite → ¬ context.schema.IsSupernet via) ∧
        (context.schema.IsHostname via → ∃ owner,
          holder via (linkName depth ++ ".server_id") servertypes =
            .ok owner) := by
  constructor
  · rintro ⟨condition, linked⟩
    obtain ⟨attr, required, isLinked⟩ := linkedBy_eq_ok linked
    have found := Schema.requireAttribute_eq_ok.mp required
    constructor
    · rintro isSqlite ⟨supernet, target, foundSupernet, type⟩
      have fails : context.dialect.require .networkContainment =
          .error (.unsupportedByDialect .sqlite .networkContainment) := by
        rw [isSqlite]
        rfl
      simp [linkedBy, Schema.requireAttribute, foundSupernet, Except.mapError,
        type, fails, bind, Except.bind] at linked
    · rintro ⟨hostname, target, foundHostname, type⟩
      have same : attr = hostname :=
        Option.some.inj (found.symm.trans foundHostname)
      rw [same, type] at isLinked
      cases isLinked with
      | hostname held => exact ⟨_, held⟩
  · rintro ⟨isSupported, isHeld⟩
    cases linked : linkedBy context depth holder via reached servertypes with
    | ok condition => exact ⟨condition, rfl⟩
    | error failure =>
        cases linkedBy_eq_error declared linked with
        | inl notHeld =>
            obtain ⟨owner, held⟩ := isHeld notHeld.1
            rw [notHeld.2] at held
            cases held
        | inr notSupported =>
            exact absurd notSupported.2.1 (isSupported notSupported.1)

/-! ## Holders -/

theorem exists_link_of_nonempty {schema : Schema}
    (declared : schema.HasDeclaredLinks) {group : Set ServertypeId}
    (isNamed : (schema.boundThrough group id via).Nonempty) :
    ∃ attr, schema.findAttribute? via = some attr ∧ attr.isLink = true := by
  obtain ⟨servertype, binding, isBinding, -, isVia, -⟩ := isNamed
  exact declared binding (Schema.mem_bindings.mp isBinding).1 via isVia

/-- The holder of an attribute is found exactly when the attribute is
reachable. -/
theorem holderWithin_isOk_iff (declared : context.schema.HasDeclaredLinks)
    (remaining depth : Nat) :
    (∃ condition, holderWithin context remaining depth id reached servertypes =
      .ok condition) ↔
      context.schema.IsReachable context.dialect remaining
        (groupOf servertypes) id := by
  induction remaining generalizing depth id reached servertypes with
  | zero =>
      rw [holderWithin, holderBy_isOk_iff, Schema.isReachable_zero]
      simp
  | succ remaining ih =>
      rw [holderWithin, holderBy_isOk_iff, Schema.isReachable_succ]
      apply and_congr_right
      intro _
      apply forall_congr'
      intro via
      apply imp_congr_right
      intro isNamed
      rw [linkedBy_isOk_iff (exists_link_of_nonempty declared isNamed), ih,
        groupOf_boundVia]

end Location

/-- Why an attribute is not reachable from the servers of a group: a chain leads
to an attribute that is not bound where it is asked for, or goes on beyond the
limit, or ends with a link that the dialect cannot follow. -/
inductive Schema.Obstacle (schema : Schema) (dialect : Dialect)
    (limit bound : Nat) (group : Set ServertypeId) (id : AttributeId) :
    CompileError → Prop where
  | notBound {vias : List AttributeId} {lastGroup : Set ServertypeId}
      {last : AttributeId} (chain : schema.Chain group id vias lastGroup last)
      (short : vias.length ≤ limit)
      (isAsked : vias ≠ [] → schema.IsHostname last)
      (notBound : ¬ schema.IsBound lastGroup last) :
      Obstacle schema dialect limit bound group id (.unreachableAttribute last)
  | tooLong {vias : List AttributeId} {lastGroup : Set ServertypeId}
      {last : AttributeId} (chain : schema.Chain group id vias lastGroup last)
      (isLong : vias.length = limit + 1) :
      Obstacle schema dialect limit bound group id
        (.relationDepthExceeded last bound)
  | notSupported {vias : List AttributeId} {lastGroup : Set ServertypeId}
      {last : AttributeId} (chain : schema.Chain group id vias lastGroup last)
      (short : vias.length ≤ limit) (isVia : vias ≠ [])
      (isSupernet : schema.IsSupernet last) (isSqlite : dialect = .sqlite) :
      Obstacle schema dialect limit bound group id
        (.unsupportedByDialect .sqlite .networkContainment)

namespace Location

variable {context : Context} {id via : AttributeId} {reached : String}
  {servertypes : List ServertypeId}

/-- An obstacle behind a stored link is one before it. -/
theorem obstacle_through {schema : Schema} {dialect : Dialect}
    {limit bound : Nat} {group : Set ServertypeId} {error : CompileError}
    (isNamed : (schema.boundThrough group id via).Nonempty)
    (isHostname : schema.IsHostname via)
    (obstacle : schema.Obstacle dialect limit bound
      (schema.boundThrough group id via) via error) :
    schema.Obstacle dialect (limit + 1) bound group id error := by
  cases obstacle with
  | notBound chain short isAsked notBound =>
      apply Schema.Obstacle.notBound
        (.through isNamed (fun _ => isHostname) chain) _ _ notBound
      · simpa using short
      · exact fun _ => chain.isHostname_last isHostname isAsked
  | tooLong chain isLong =>
      apply Schema.Obstacle.tooLong
        (.through isNamed (fun _ => isHostname) chain)
      simpa using isLong
  | notSupported chain short isVia isSupernet isSqlite =>
      apply Schema.Obstacle.notSupported
        (.through isNamed (fun _ => isHostname) chain) _ _ isSupernet isSqlite
      · simpa using short
      · simp

/-- A holder that is not found is not bound, or not found through a link. -/
theorem obstacle_of_holderBy {relation : Relation} {limit bound : Nat}
    {error : CompileError}
    (failed : holderBy context relation id reached servertypes = .error error)
    (failedLink : ∀ via,
      (context.schema.boundThrough (groupOf servertypes) id via).Nonempty →
      relation via reached
        (boundVia (bindingsOf context id servertypes) (some via)) =
        .error error →
      context.schema.Obstacle context.dialect limit bound
        (groupOf servertypes) id error) :
    context.schema.Obstacle context.dialect limit bound (groupOf servertypes)
      id error := by
  cases holderBy_eq_error failed with
  | inl notBound =>
      rw [notBound.2]
      exact .notBound (.here _ id) (by simp) (by simp) notBound.1
  | inr failedVia =>
      obtain ⟨via, isNamed, isError⟩ := failedVia
      exact failedLink via isNamed isError

/-- A holder that is not found is not for one of three reasons. -/
theorem holderWithin_eq_error (declared : context.schema.HasDeclaredLinks)
    {remaining depth : Nat} {error : CompileError}
    (failed : holderWithin context remaining depth id reached servertypes =
      .error error) :
    context.schema.Obstacle context.dialect remaining
      context.options.maxRelationDepth (groupOf servertypes) id error := by
  induction remaining generalizing depth id reached servertypes with
  | zero =>
      rw [holderWithin] at failed
      refine obstacle_of_holderBy failed fun via isNamed isError => ?_
      rw [← Except.error.inj isError]
      exact .tooLong (.through isNamed (by simp) (.here _ via)) (by simp)
  | succ remaining ih =>
      rw [holderWithin] at failed
      refine obstacle_of_holderBy failed fun via isNamed failedLink => ?_
      cases linkedBy_eq_error (exists_link_of_nonempty declared isNamed)
          failedLink with
      | inl notHeld =>
          have obstacle := ih notHeld.2
          rw [groupOf_boundVia] at obstacle
          exact obstacle_through isNamed notHeld.1 obstacle
      | inr notSupported =>
          obtain ⟨isSqlite, isSupernet, isError⟩ := notSupported
          rw [isError]
          exact .notSupported (.through isNamed (by simp) (.here _ via))
            (by simp) (by simp) isSupernet isSqlite

end Location

/-! ## Other bounds -/

/-- A context with another bound on links. -/
def Context.withMaxDepth (context : Context) (limit : Nat) : Context :=
  { context with options := { context.options with maxRelationDepth := limit } }

namespace Location

variable {context : Context} {id : AttributeId} {reached : String}
  {servertypes : List ServertypeId}

/-- A relation gives all the conditions that another one gives. -/
def Relation.Extends (other relation : Relation) : Prop :=
  ∀ id reached servertypes condition,
    relation id reached servertypes = .ok condition →
    other id reached servertypes = .ok condition

theorem Relation.Extends.holderBy {relation other : Relation}
    (isExtension : other.Extends relation) :
    (holderBy context other).Extends (holderBy context relation) := by
  intro id reached servertypes condition held
  unfold Location.holderBy at held ⊢
  split at held
  next => cases held
  next =>
    obtain ⟨related, computed, chosen⟩ := bind_eq_ok.mp held
    have computedOther : (links (bindingsOf context id servertypes)).mapM
        (linkStrategy other reached (bindingsOf context id servertypes)) =
          .ok related := by
      apply mapM_eq_ok.mpr
      apply (mapM_eq_ok.mp computed).imp
      intro via strategy found
      obtain ⟨linked, isLinked, returned⟩ := bind_eq_ok.mp found
      exact bind_eq_ok.mpr ⟨linked, isExtension _ _ _ _ isLinked, returned⟩
    exact bind_eq_ok.mpr ⟨related, computedOther, chosen⟩

theorem Relation.Extends.linkedBy {holder other : Relation}
    (isExtension : other.Extends holder) (depth : Nat) :
    (linkedBy context depth other).Extends (linkedBy context depth holder) := by
  intro via reached servertypes condition linked
  obtain ⟨attr, required, later⟩ := bind_eq_ok.mp linked
  apply bind_eq_ok.mpr ⟨attr, required, _⟩
  cases type : attr.type with
  | hostname target =>
      simp only [type] at later ⊢
      obtain ⟨owner, held, returned⟩ := bind_eq_ok.mp later
      exact bind_eq_ok.mpr ⟨owner, isExtension _ _ _ _ held, returned⟩
  | supernet | reverseHostname | scalar =>
      simp only [type] at later ⊢
      exact later

/-- A holder that is found within a limit is found with the same condition
within a greater one. -/
theorem holderWithin_extends {remaining more : Nat} (atMost : remaining ≤ more)
    (limit : Nat) (depth : Nat) :
    (holderWithin (context.withMaxDepth limit) more depth).Extends
      (holderWithin context remaining depth) := by
  induction remaining generalizing more depth with
  | zero =>
      have failing (other : Relation) : other.Extends fun via _ _ =>
          .error (.relationDepthExceeded via
              context.options.maxRelationDepth) := by
        intro via reached servertypes condition linked
        cases linked
      cases more with
      | zero => exact (failing _).holderBy
      | succ more => exact (failing _).holderBy
  | succ remaining ih =>
      cases more with
      | zero => omega
      | succ more => exact ((ih (by omega) (depth + 1)).linkedBy depth).holderBy

section Stored

variable {attr : Attribute} (notSpecial : attr.special = none)
  (isStored : (∃ domain, attr.type = .scalar domain) ∨ ∃ target,
    attr.type = .hostname target)

include notSpecial isStored

theorem resolve_isOk_iff_isReachable
    (declared : context.schema.HasDeclaredLinks) :
    (∃ location, resolve context attr = .ok location) ↔
      context.schema.IsReachable context.dialect
        context.options.maxRelationDepth
        (groupOf context.servertypes) attr.id := by
  obtain ⟨table, isTable⟩ := Attribute.exists_table notSpecial isStored
  have isHeld :
    (∃ owner,
      holderWithin context context.options.maxRelationDepth 0 attr.id
        "sub.server_id" context.servertypes = .ok owner) ↔ _ :=
          holderWithin_isOk_iff declared _ 0
  rw [resolve_eq_stored notSpecial isTable, ← isHeld]
  constructor
  · intro ⟨location, found⟩
    obtain ⟨owner, held, -⟩ := bind_eq_ok.mp found
    exact ⟨owner, held⟩
  · intro ⟨owner, held⟩
    exact ⟨_, bind_eq_ok.mpr ⟨owner, held, rfl⟩⟩

theorem obstacle_of_resolve_eq_error
    (declared : context.schema.HasDeclaredLinks) {error : CompileError}
    (failed : resolve context attr = .error error) :
    context.schema.Obstacle context.dialect context.options.maxRelationDepth
      context.options.maxRelationDepth (groupOf context.servertypes)
      attr.id error := by
  obtain ⟨table, isTable⟩ := Attribute.exists_table notSpecial isStored
  rw [resolve_eq_stored notSpecial isTable] at failed
  cases bind_eq_error.mp failed with
  | inl notHeld => exact holderWithin_eq_error declared notHeld
  | inr returned =>
      obtain ⟨owner, -, returned⟩ := returned
      cases returned

theorem resolve_withMaxDepth {location : Location}
    (resolved : resolve context attr = .ok location) {limit : Nat}
    (atMost : context.options.maxRelationDepth ≤ limit) :
    resolve (context.withMaxDepth limit) attr = .ok location := by
  obtain ⟨table, isTable⟩ := Attribute.exists_table notSpecial isStored
  rw [resolve_eq_stored notSpecial isTable] at resolved ⊢
  obtain ⟨owner, held, returned⟩ := bind_eq_ok.mp resolved
  exact bind_eq_ok.mpr
    ⟨owner, holderWithin_extends atMost limit 0 _ _ _ _ held, returned⟩

end Stored

/-- An attribute is located exactly when all chains of links from it end within
the bound, at attributes that are bound where they are asked for, and the
dialect has what the links need. Otherwise the error names such an obstacle. So
the location found stays the same with a greater bound, and none is found with
any bound when some chain goes on forever. -/
theorem resolve_succeeds_iff {declarations : List Declaration}
    {context : Context} {attr : Attribute}
    (built : Schema.build declarations = .ok context.schema)
    (notSpecial : attr.special = none)
    (isStored : (∃ domain, attr.type = .scalar domain) ∨
      ∃ target, attr.type = .hostname target) :
    ((∃ location, resolve context attr = .ok location) ↔
      context.schema.IsReachable context.dialect
        context.options.maxRelationDepth
        (groupOf context.servertypes) attr.id) ∧
    (∀ error, resolve context attr = .error error →
      context.schema.Obstacle context.dialect context.options.maxRelationDepth
        context.options.maxRelationDepth (groupOf context.servertypes)
        attr.id error) ∧
    (∀ location limit, resolve context attr = .ok location →
      context.options.maxRelationDepth ≤ limit →
      resolve (context.withMaxDepth limit) attr = .ok location) ∧
    (∀ vias : Nat → AttributeId,
      (∀ length, ∃ lastGroup last,
        context.schema.Chain (groupOf context.servertypes) attr.id
          ((List.range length).map vias) lastGroup last) →
      ∀ limit, ∃ error,
      resolve (context.withMaxDepth limit) attr = .error error) := by
  have declared := Schema.build_links built
  apply And.intro (resolve_isOk_iff_isReachable notSpecial isStored declared)
  apply And.intro
  · intro error failed
    exact obstacle_of_resolve_eq_error notSpecial isStored declared failed
  apply And.intro
  · intro location limit resolved atMost
    exact resolve_withMaxDepth notSpecial isStored resolved atMost
  · intro vias forever limit
    cases resolved : resolve (context.withMaxDepth limit) attr with
    | error failure => exact ⟨failure, rfl⟩
    | ok location =>
        have declaredLimited :
          (context.withMaxDepth limit).schema.HasDeclaredLinks := declared
        have reachable :=
          (resolve_isOk_iff_isReachable notSpecial isStored declaredLimited).mp
            ⟨location, resolved⟩
        obtain ⟨lastGroup, last, chain⟩ := forever (limit + 1)
        have short : ((List.range (limit + 1)).map vias).length ≤ limit :=
          reachable.length_le chain
        simp at short

/-- A rack that is related via a host is located with any bound, and links that
are related via each other with none. -/
theorem resolve_succeeds_iff_rack :
    let schema : Schema :=
      ⟨["vm"],
        [⟨"host", .hostname none, none, false⟩,
          ⟨"left", .hostname none, none, false⟩,
          ⟨"rack", .scalar .string, none, false⟩,
          ⟨"right", .hostname none, none, false⟩],
        [⟨"vm", "right", some "left"⟩, ⟨"vm", "left", some "right"⟩,
          ⟨"vm", "rack", some "host"⟩, ⟨"vm", "host", none⟩]⟩
    let context : Context := ⟨schema, { maxRelationDepth := 1 }, {}, ["vm"], {}⟩
    (∃ location, resolve context ⟨"rack", .scalar .string, none, false⟩ =
      .ok location ∧
      ∀ limit, 1 ≤ limit →
        resolve (context.withMaxDepth limit)
          ⟨"rack", .scalar .string, none, false⟩ = .ok location) ∧
    ∀ limit, ∃ error,
      resolve (context.withMaxDepth limit)
        ⟨"left", .hostname none, none, false⟩ = .error error := by
  intro schema context
  have built : Schema.build
      [.servertype "vm", .attr ⟨"host", .hostname none, none, false⟩,
        .attr ⟨"left", .hostname none, none, false⟩,
        .attr ⟨"rack", .scalar .string, none, false⟩,
        .attr ⟨"right", .hostname none, none, false⟩,
        .binding ⟨"vm", "host", none⟩, .binding ⟨"vm", "rack", some "host"⟩,
        .binding ⟨"vm", "left", some "right"⟩,
        .binding ⟨"vm", "right", some "left"⟩] = .ok schema := by cbv
  constructor
  · have resolved : ∃ location,
        resolve context ⟨"rack", .scalar .string, none, false⟩ = .ok location :=
      ⟨_, rfl⟩
    obtain ⟨location, resolved⟩ := resolved
    obtain ⟨-, -, monotone, -⟩ :=
      @resolve_succeeds_iff _ context ⟨"rack", .scalar .string, none, false⟩
        built rfl (.inl ⟨.string, rfl⟩)
    exact ⟨location, resolved,
      fun limit atMost => monotone location limit resolved atMost⟩
  · obtain ⟨-, -, -, diverges⟩ :=
      @resolve_succeeds_iff _ context ⟨"left", .hostname none, none, false⟩
        built rfl (.inr ⟨none, rfl⟩)
    let name (position : Nat) : AttributeId :=
      if position % 2 = 0 then "left" else "right"
    apply diverges fun position => name (position + 1)
    have follows (length start : Nat) (group : Set ServertypeId)
        (isAsked : "vm" ∈ group) :
        ∃ lastGroup last, schema.Chain group (name start)
          ((List.range length).map fun position => name (position + start + 1))
          lastGroup last := by
      induction length generalizing start group with
      | zero => exact ⟨group, _, .here group _⟩
      | succ length ih =>
          have isNext : "vm" ∈ schema.boundThrough group (name start)
              (name (start + 1)) := by
            refine ⟨⟨"vm", name start, some (name (start + 1))⟩, ?_,
              isAsked, rfl, rfl⟩
            cases Nat.mod_two_eq_zero_or_one start with
            | inl even =>
                simp [name, schema, Schema.bindings, even,
                  Nat.succ_mod_two_eq_one_iff]
            | inr odd =>
                simp [name, schema, Schema.bindings, odd,
                  Nat.succ_mod_two_eq_zero_iff]
          have isHostname : schema.IsHostname (name (start + 1)) := by
            simp only [name]
            split
            · exact ⟨_, none, rfl, rfl⟩
            · exact ⟨_, none, rfl, rfl⟩
          obtain ⟨lastGroup, last, rest⟩ := ih (start + 1) _ isNext
          refine ⟨lastGroup, last, ?_⟩
          rw [List.range_succ_eq_map, List.map_cons, List.map_map]
          have chain :=
            Schema.Chain.through ⟨"vm", isNext⟩ (fun _ => isHostname) rest
          simpa [Function.comp_def, Nat.add_assoc, Nat.add_comm,
            Nat.add_left_comm] using chain
    intro length
    exact follows length 0 (groupOf ["vm"]) List.mem_cons_self

end Location

end AttributeQuery
