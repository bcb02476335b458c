import AttributeQuery.Proofs.Query.Inventory
import AttributeQuery.Proofs.Query.Location

/-!
# Rows of holders

The location of a stored attribute finds the rows that the holders of the
attribute own, and no others. What the conditions of a relation say is followed
through all links: the row of one link names the holder that the next one is
about, while the outer server stays the same.
-/

namespace AttributeQuery

open Sql

namespace Location

/-! ## Names of rows -/

theorem linkName_injective {first second : Nat}
    (same : linkName first = linkName second) :
    first = second := by
  have sameDigits : Nat.toDigits 10 (first + 1) =
      Nat.toDigits 10 (second + 1) := by
    have sameChars := congrArg String.toList same
    rw [toList_linkName, toList_linkName] at sameChars
    exact List.append_cancel_left sameChars
  have readBack := congrArg (Nat.ofDigitChars 10 · 0) sameDigits
  simp only [Nat.ofDigitChars_ten_toDigits] at readBack
  omega

/-- Later links have other names. -/
theorem linkName_ne_later {depth later : Nat} (isLater : depth + 1 ≤ later) :
    linkName depth ≠ linkName later := by
  intro same
  have sameDepth := linkName_injective same
  omega

/-- A word that does not start as the names of links do is none of them. -/
theorem ne_linkName {text : String} (differs : text.toList.head? ≠ some 'r')
    (depth : Nat) :
    text ≠ linkName depth := by
  rintro rfl
  simp [toList_linkName] at differs

theorem server_ne_linkName (depth : Nat) : "server" ≠ linkName depth :=
  ne_linkName (by decide) depth

/-! ## The outer server -/

variable {Value : Type} {context : Context} {database : Database Value}
  {contains : Value → Value → Prop} {inventory : Inventory Value}
  {server : Server Value} {serverRow : Row Value}

/-- The row of a server of an inventory, in a database that holds it. -/
structure IsOuter (context : Context) (database : Database Value)
    (contains : Value → Value → Prop) (inventory : Inventory Value)
    (server : Server Value) (serverRow : Row Value) : Prop where
  valid : context.layout.check = .ok ()
  distinct : context.schema.HasDistinctBindings
  compares : database.Compares contains
  isStored : inventory.IsStored context.layout database
  isDirect : inventory.IsDirect context.schema
  isServer : server ∈ inventory.servers
  isRow : server.IsRow context.layout database serverRow

/-- The name of the outer server stands for a row. -/
def Sees (scopes : Scopes Value) (serverRow : Row Value) : Prop :=
  ∀ column, scopes.read "server" column = serverRow column

/-- A link has a row of its own; that of the outer server stays in sight. -/
theorem Sees.link {scopes : Scopes Value} (sees : Sees scopes serverRow)
    (row : Row Value) (depth : Nat) :
    Sees ((linkName depth, row) :: scopes) serverRow := fun column => by
  rw [Scopes.read_cons_of_ne row scopes column (server_ne_linkName depth), sees]

/-- The rows that a condition in the query for a row can name. -/
theorem sees_sub (row serverRow : Row Value) :
    Sees [("sub", row), ("server", serverRow)] serverRow := fun column => by
  rw [Scopes.read_cons_of_ne _ _ _ (by decide), Scopes.read_cons_self]

theorem read_sub (row serverRow : Row Value) (column : String) :
    Scopes.read [("sub", row), ("server", serverRow)] "sub" column =
      row column :=
  Scopes.read_cons_self row [("server", serverRow)] column

section Comparisons

variable (compares : database.Compares contains) {scopes : Scopes Value}
  {qualifier name otherQualifier otherName : String}

include compares

theorem truth_compare_text {stored text : String}
    (read : scopes.read qualifier name = some (database.text stored)) :
    (Expression.compare "=" (.column qualifier name)
      (.bound (.text text))).truth database scopes = .yes ↔ stored = text := by
  simp [Expression.truth, Operand.compared, Operand.value, read,
    Database.strictly, Database.bound, compares.text]

theorem truth_compare_number {first second : Int}
    (read : scopes.read qualifier name = some (database.number first))
    (readOther : scopes.read otherQualifier otherName =
      some (database.number second)) :
    (Expression.compare "=" (.column qualifier name)
      (.column otherQualifier otherName)).truth
      database scopes = .yes ↔ first = second := by
  simp [Expression.truth, Operand.compared, Operand.value, read, readOther,
    Database.strictly, compares.number]

theorem truth_compare_network {outer inner : Option Value}
    (read : scopes.read qualifier name = outer)
    (readOther : scopes.read otherQualifier otherName = inner) :
    (Expression.compare ">>=" (.column qualifier name)
      (.column otherQualifier otherName)).truth database scopes = .yes ↔
      ∃ outerValue innerValue, outer = some outerValue ∧
        inner = some innerValue ∧
        contains outerValue innerValue := by
  cases outer <;> cases inner <;>
    simp [Expression.truth, Operand.compared, Operand.value, read, readOther,
      Database.strictly, compares.network]

end Comparisons

/-! ## Strategies -/

section Strategies

variable {relation : Relation} {reached : String} {id : AttributeId}
  {servertypes : List ServertypeId} {via other : Option AttributeId}
  {strategy : Strategy}

/-- The bindings of an attribute to some servertypes are found by servertype. -/
theorem mem_bindingsOf (distinct : context.schema.HasDistinctBindings)
    {binding : Binding} :
    binding ∈ bindingsOf context id servertypes ↔
      context.schema.binding? binding.servertype id = some binding ∧
        binding.servertype ∈ servertypes := by
  simp [bindingsOf, distinct.binding?_eq_some]

/-- A strategy goes one way only. -/
theorem IsStrategy.via_unique (distinct : context.schema.HasDistinctBindings)
    (first : IsStrategy context relation reached
      (bindingsOf context id servertypes) via strategy)
    (second : IsStrategy context relation reached
      (bindingsOf context id servertypes) other strategy) : via = other := by
  obtain ⟨binding, isBinding, rfl⟩ := first.isBound
  have member : binding.servertype ∈
      boundVia (bindingsOf context id servertypes) other := by
    rw [← second.servertypes, first.servertypes]
    exact mem_boundVia.mpr ⟨binding, isBinding, rfl, rfl⟩
  obtain ⟨otherBinding, isOther, rfl, sameServertype⟩ := mem_boundVia.mp member
  have found := ((mem_bindingsOf distinct).mp isBinding).1
  have foundOther := ((mem_bindingsOf distinct).mp isOther).1
  rw [sameServertype] at foundOther
  rw [Option.some.inj (found.symm.trans foundOther)]

theorem IsStrategy.exists_via_iff
    (distinct : context.schema.HasDistinctBindings)
    (isStrategy : IsStrategy context relation reached
      (bindingsOf context id servertypes) via strategy)
    {Goes : Option AttributeId → Prop} :
    (∃ other,
      IsStrategy context relation reached (bindingsOf context id servertypes)
        other strategy ∧ Goes other) ↔ Goes via := by
  constructor
  · rintro ⟨other, isOther, goes⟩
    rwa [isStrategy.via_unique distinct isOther]
  · exact fun goes => ⟨via, isStrategy, goes⟩

/-- Without a guard, the bindings through a link are to all servertypes. -/
theorem mem_of_needsGuard (distinct : context.schema.HasDistinctBindings)
    {strategies : List Strategy} {link : AttributeId}
    (noGuard : needsGuard servertypes (bindingsOf context id servertypes)
      strategies = false)
    (isLink : link ∈ links (bindingsOf context id servertypes))
    {servertype : ServertypeId} (candidate : servertype ∈ servertypes) :
    servertype ∈ boundVia (bindingsOf context id servertypes) (some link) := by
  have nodup :
      (boundVia (bindingsOf context id servertypes) (some link)).Nodup :=
    (distinct.servertypes_nodup id).sublist
      ((List.filter_sublist.trans List.filter_sublist).map _)
  have subset : boundVia (bindingsOf context id servertypes) (some link) ⊆
      servertypes := by
    intro other member
    obtain ⟨binding, isBinding, -, rfl⟩ := mem_boundVia.mp member
    exact ((mem_bindingsOf distinct).mp isBinding).2
  have isLong : servertypes.length ≤
      (boundVia (bindingsOf context id servertypes) (some link)).length := by
    rw [needsGuard, Bool.or_eq_false_iff, List.any_eq_false] at noGuard
    simpa using noGuard.2 link isLink
  exact ((List.subperm_of_subset nodup subset).perm_of_length_le
    isLong).mem_iff.mpr candidate

/-- A server holds an attribute when the strategy for its servertype reaches
it. -/
theorem holds_iff_strategy (distinct : context.schema.HasDistinctBindings)
    {strategies : List Strategy}
    (areStrategies : AreStrategies context relation reached
      (bindingsOf context id servertypes) strategies)
    (candidate : server.servertype ∈ servertypes) {holder : Int} :
    inventory.Holds context.schema contains server id holder ↔
      ∃ strategy ∈ strategies, server.servertype ∈ strategy.servertypes ∧
        ∃ via, IsStrategy context relation reached
          (bindingsOf context id servertypes) via strategy ∧
            inventory.Reaches context.schema contains server via holder := by
  rw [Inventory.holds_iff]
  constructor
  · rintro ⟨binding, bound, reaches⟩
    have isServertype := (Schema.mem_of_binding? bound).2
    rw [← isServertype] at bound
    have isBinding :=
      (mem_bindingsOf distinct).mpr ⟨bound, isServertype ▸ candidate⟩
    obtain ⟨strategy, isOne, isStrategy⟩ :=
      areStrategies.complete binding isBinding
    refine ⟨strategy, isOne, ?_, _, isStrategy, reaches⟩
    rw [isStrategy.servertypes]
    exact mem_boundVia.mpr ⟨binding, isBinding, rfl, isServertype⟩
  · rintro ⟨strategy, -, isFor, via, isStrategy, reaches⟩
    rw [isStrategy.servertypes] at isFor
    obtain ⟨binding, isBinding, rfl, isServertype⟩ := mem_boundVia.mp isFor
    exact ⟨binding, isServertype ▸ ((mem_bindingsOf distinct).mp isBinding).1,
      reaches⟩

/-- If there is one strategy, an attribute is held the way it goes. -/
theorem holds_iff_of_single (distinct : context.schema.HasDistinctBindings)
    (areStrategies : AreStrategies context relation reached
      (bindingsOf context id servertypes) [strategy])
    (isStrategy : IsStrategy context relation reached
      (bindingsOf context id servertypes) via strategy)
    (candidate : server.servertype ∈ servertypes) {holder : Int} :
    inventory.Holds context.schema contains server id holder ↔
      server.servertype ∈ strategy.servertypes ∧
        inventory.Reaches context.schema contains server via holder := by
  simp only [holds_iff_strategy distinct areStrategies candidate,
    List.mem_singleton, exists_eq_left, isStrategy.exists_via_iff distinct]

end Strategies

/-! ## Guards -/

/-- The row of a server of a servertype, which the database tells from all
others. -/
structure IsServerOf (context : Context) (database : Database Value)
    (servertype : ServertypeId) (serverRow : Row Value) : Prop where
  isStored : serverRow (context.named .servertypeColumn) =
    some (database.text servertype)
  isTold : ∀ other,
    database.compare "=" (database.text servertype) (database.text other) =
      .yes ↔ servertype = other

theorem IsOuter.isServerOf
    (outer : IsOuter context database contains inventory server serverRow) :
    IsServerOf context database server.servertype serverRow :=
  ⟨outer.isRow.servertype, outer.compares.text server.servertype⟩

section Guards

variable {servertype : ServertypeId}
  (isServer : IsServerOf context database servertype serverRow)
  {scopes : Scopes Value} (sees : Sees scopes serverRow)

include isServer sees

/-- The guard of a strategy holds for its servertypes. -/
theorem truth_guardExpression (servertypes : List ServertypeId) :
    (guardExpression context servertypes).truth database scopes = .yes ↔
      servertype ∈ servertypes := by
  have read : scopes.read "server" (context.named .servertypeColumn) =
      some (database.text servertype) := (sees _).trans isServer.isStored
  have isEqual (text : String) : Operand.compared database scopes "="
      (.column "server" (context.named .servertypeColumn))
      (.bound (.text text)) = .yes ↔ servertype = text := by
    simp [Operand.compared, Operand.value, read, Database.strictly,
      Database.bound, isServer.isTold]
  simp [guardExpression, Expression.truth, Truth.any_eq_yes, isEqual]

/-- One of several guarded strategies holds when the one for the servertype of
the outer server does. -/
theorem truth_anyGuarded {strategies : List Strategy}
    {partLists : List (List Expression)} {Holds : Strategy → Prop}
    (stated : List.Forall₂
      (fun strategy parts => servertype ∈ strategy.servertypes →
        (Expression.AllHold database scopes parts ↔ Holds strategy))
      strategies partLists) :
    (Expression.anyOf
      (List.zipWith (guardedExpression context) strategies partLists)).truth
      database scopes = .yes ↔
      ∃ strategy ∈ strategies, servertype ∈ strategy.servertypes ∧
        Holds strategy := by
  rw [Expression.truth_anyOf, Truth.any_eq_yes]
  induction stated with
  | nil => simp
  | @cons strategy parts _ _ head _ ih =>
      have first : (guardedExpression context strategy parts).truth database
          scopes = .yes ↔
          servertype ∈ strategy.servertypes ∧ Holds strategy := by
        rw [guardedExpression, Expression.truth_allOf,
          Expression.all_eq_yes_iff_allHold, Expression.allHold_cons,
          truth_guardExpression isServer sees]
        exact and_congr_right head
      rw [List.zipWith_cons_cons, List.map_cons, List.mem_cons, eq_comm, first,
        ih, List.exists_mem_cons_iff]

end Guards

/-! ## What relations mean -/

/-- A relation after a number of links: its conditions are read, and where the
relation applies they hold for the servers that are meant. The column with the
id of the server belongs to none of the links to come. -/
def Relation.Means (database : Database Value) (server : Server Value)
    (serverRow : Row Value) (depth : Nat) (relation : Relation)
    (Applies Meaning : AttributeId → Int → Prop) : Prop :=
  ∀ {id : AttributeId} {reached qualifier name : String}
    {servertypes : List ServertypeId} {condition : Condition},
    IsColumn reached qualifier name →
    (∀ later, depth ≤ later → qualifier ≠ linkName later) →
    relation id reached servertypes = .ok condition →
    ∃ parts, condition.States parts ∧ ∀ {scopes : Scopes Value} {holder : Int},
      server.servertype ∈ servertypes → Sees scopes serverRow →
      scopes.read qualifier name = some (database.number holder) →
      Applies id holder →
      (Expression.AllHold database scopes parts ↔ Meaning id holder)

section Meaning

variable (outer : IsOuter context database contains inventory server serverRow)
  {relation : Relation} {depth : Nat}

include outer

/-- A strategy for the outer server reaches the holders. -/
theorem IsStrategy.means
    (means : relation.Means database server serverRow depth (fun _ _ => True)
      (inventory.Linked context.schema contains server))
    {reached qualifier name : String}
    (isReached : IsColumn reached qualifier name)
    (apart : ∀ later, depth ≤ later → qualifier ≠ linkName later)
    {bindings : List Binding} {via : Option AttributeId} {strategy : Strategy}
    (isStrategy : IsStrategy context relation reached bindings via strategy) :
    ∃ parts, strategy.condition.States parts ∧
      ∀ {scopes : Scopes Value} {holder : Int},
      via = none ∨ server.servertype ∈ strategy.servertypes →
      Sees scopes serverRow →
      scopes.read qualifier name = some (database.number holder) →
      (Expression.AllHold database scopes parts ↔
        inventory.Reaches context.schema contains server via holder) := by
  cases via with
  | none =>
      rw [isStrategy.direct]
      refine ⟨_,
        columnsEqual_states (isColumn_server outer.valid _) isReached, ?_⟩
      intro scopes holder _ sees read
      have readServer : scopes.read "server" (context.named .serverIdColumn) =
          some (database.number server.id) := (sees _).trans outer.isRow.id
      simpa [Inventory.Reaches] using
        truth_compare_number outer.compares readServer read
  | some link =>
      obtain ⟨parts, states, holds⟩ :=
        means isReached apart isStrategy.condition
      refine ⟨parts, states, fun isFor sees read => ?_⟩
      exact holds (by simpa using isFor) sees read trivial

/-- A relation for holders means the servers that hold an attribute, if the
relation for links means those that a link leads to. -/
theorem holderBy_means
    (means : relation.Means database server serverRow depth (fun _ _ => True)
      (inventory.Linked context.schema contains server)) :
    (holderBy context relation).Means database server serverRow depth
      (inventory.CarriesDirectly context.schema)
      (inventory.Holds context.schema contains server) := by
  intro id reached qualifier name servertypes condition isReached apart held
  obtain ⟨strategies, areStrategies, isSome, chosen⟩ := holderBy_eq_ok held
  rcases chosen with ⟨strategy, rfl, rfl, noGuard⟩ | rfl
  · obtain ⟨via, isStrategy⟩ := areStrategies.each strategy List.mem_cons_self
    obtain ⟨parts, states, holds⟩ :=
      isStrategy.means outer means isReached apart
    refine ⟨parts, states,
      fun {scopes holder} candidate sees read carries => ?_⟩
    have onlyWay : inventory.Holds context.schema contains server id holder ↔
        server.servertype ∈ strategy.servertypes ∧
          inventory.Reaches context.schema contains server via holder :=
      holds_iff_of_single outer.distinct areStrategies isStrategy candidate
    cases via with
    | none =>
        -- Nothing says that the attribute is bound to the servertype of the
        -- outer server, but only then may it own the row.
        rw [holds (.inl rfl) sees read]
        refine ⟨fun reaches => ?_, fun isHeld => (onlyWay.mp isHeld).2⟩
        obtain ⟨binding, bound, isDirect⟩ :=
          carries server outer.isServer reaches
        exact Inventory.holds_iff.mpr ⟨binding, bound, by rwa [isDirect]⟩
    | some link =>
        have isFor : server.servertype ∈ strategy.servertypes := by
          rw [isStrategy.servertypes]
          exact mem_of_needsGuard outer.distinct noGuard
            (mem_links.mpr isStrategy.isBound) candidate
        rw [holds (.inr isFor) sees read, onlyWay]
        exact (and_iff_right isFor).symm
  · have each : ∀ strategy ∈ strategies, ∃ parts,
        strategy.condition.States parts ∧
        ∀ {scopes : Scopes Value} {holder : Int},
        server.servertype ∈ strategy.servertypes →
        Sees scopes serverRow →
        scopes.read qualifier name = some (database.number holder) →
        (Expression.AllHold database scopes parts ↔ ∃ via,
          IsStrategy context relation reached
            (bindingsOf context id servertypes) via strategy ∧
            inventory.Reaches context.schema contains server via holder) := by
      intro strategy member
      obtain ⟨via, isStrategy⟩ := areStrategies.each strategy member
      obtain ⟨parts, states, holds⟩ :=
        isStrategy.means outer means isReached apart
      refine ⟨parts, states, fun isFor sees read => ?_⟩
      rw [isStrategy.exists_via_iff outer.distinct]
      exact holds (.inr isFor) sees read
    obtain ⟨partLists, stated⟩ := exists_forall₂ each
    refine ⟨_, anyGuarded_states outer.valid isSome (fun strategy member => ?_)
      (stated.imp fun _ _ stated => stated.1), fun candidate sees read _ => ?_⟩
    · obtain ⟨via, isStrategy⟩ := areStrategies.each strategy member
      exact isStrategy.servertypes_ne_nil
    · rw [holds_iff_strategy outer.distinct areStrategies candidate,
        Expression.allHold_cons, truth_anyGuarded outer.isServerOf sees
          (stated.imp fun _ _ stated isFor => stated.2 isFor sees read)]
      simp

section Links

variable {scopes : Scopes Value} {qualifier name : String} {holder : Int}

omit outer in
/-- What is read of the row of a link. -/
theorem read_link (scopes : Scopes Value) (depth : Nat) {row : Row Value}
    {column : String} {value : Option Value} (stored : row column = value) :
    Scopes.read ((linkName depth, row) :: scopes) (linkName depth) column =
      value :=
  (Scopes.read_cons_self row scopes column).trans stored

variable (apart : ∀ later, depth ≤ later → qualifier ≠ linkName later)
  (read : scopes.read qualifier name = some (database.number holder))

include apart read

omit outer in
/-- The id of the server that is reached is still read beneath the row of a
link. -/
theorem read_beneath_link (row : Row Value) :
    Scopes.read ((linkName depth, row) :: scopes) qualifier name =
      some (database.number holder) :=
  (Scopes.read_cons_of_ne row scopes name (apart depth le_rfl)).trans read

/-- A stored link has a row whose owner is meant and whose value is the server
that is reached. -/
theorem allHold_hostnameLink {via : AttributeId} {ownerParts : List Expression}
    {IsMeant : Int → Prop}
    (owners : ∀ entry ∈ inventory.relations, entry.attributeId = via →
      ∀ row : Row Value, row "server_id" = some (database.number entry.owner) →
      (Expression.AllHold database ((linkName depth, row) :: scopes)
        ownerParts ↔
        IsMeant entry.owner)) :
    Expression.AllHold database scopes
        [.hasRow (context.named .relationTable) (linkName depth)
          (.allOf
            (Expression.compare "=" (.column (linkName depth) "attribute_id")
                (.bound (.text via)) ::
              ownerParts ++
              [Expression.compare "=" (.column (linkName depth) "value")
                (.column qualifier name)]))] ↔
      ∃ entry ∈ inventory.relations, entry.attributeId = via ∧
        IsMeant entry.owner ∧
        entry.value = holder := by
  rw [Expression.allHold_hasRow]
  refine exists_iff_of_forall₂ outer.isStored.relations
    fun {entry row} isStored isRow => ?_
  rw [List.cons_append, Expression.allHold_cons, Expression.allHold_append,
    Expression.allHold_singleton,
    truth_compare_text outer.compares
      (read_link scopes depth isRow.attributeId),
    truth_compare_number outer.compares
      (read_link scopes depth (isRow.value _ rfl))
      (read_beneath_link apart read row)]
  exact and_congr_right fun isVia => and_congr_left fun _ =>
    owners entry isStored isVia row isRow.owner

/-- A link to networks has the row of a server of the target whose network
contains that of the outer server. -/
theorem allHold_supernetLink (sees : Sees scopes serverRow)
    (target : ServertypeId) :
    Expression.AllHold database scopes
        [.hasRow (context.named .serverTable) (linkName depth)
          (.allOf [
            .compare "="
              (.column (linkName depth) (context.named .servertypeColumn))
              (.bound (.text target)),
            .compare ">>="
              (.column (linkName depth) (context.named .networkColumn))
              (.column "server" (context.named .networkColumn)),
            .compare "="
              (.column (linkName depth) (context.named .serverIdColumn))
              (.column qualifier name)])] ↔
      ∃ other ∈ inventory.servers, other.servertype = target ∧
        (∃ outerNetwork innerNetwork, other.network = some outerNetwork ∧
          server.network = some innerNetwork ∧
          contains outerNetwork innerNetwork) ∧
        other.id = holder := by
  rw [Expression.allHold_hasRow]
  refine exists_iff_of_forall₂ outer.isStored.servers
    fun {other row} isServer isRow => ?_
  have readNetwork : Scopes.read ((linkName depth, row) :: scopes) "server"
      (context.named .networkColumn) = server.network :=
    (sees.link row depth _).trans outer.isRow.network
  rw [Expression.allHold_cons, Expression.allHold_cons,
    Expression.allHold_singleton]
  exact and_congr
    (truth_compare_text outer.compares
      (read_link scopes depth isRow.servertype))
    (and_congr
      (truth_compare_network outer.compares
        (read_link scopes depth isRow.network) readNetwork)
      (truth_compare_number outer.compares (read_link scopes depth isRow.id)
        (read_beneath_link apart read row)))

/-- A reversed link has a row of the server that is reached whose value is the
outer server. -/
theorem allHold_reverseLink (sees : Sees scopes serverRow)
    (reversed : AttributeId) :
    Expression.AllHold database scopes
        [.hasRow (context.named .relationTable) (linkName depth)
          (.allOf [
            .compare "=" (.column (linkName depth) "attribute_id")
              (.bound (.text reversed)),
            .compare "=" (.column (linkName depth) "value")
              (.column "server" (context.named .serverIdColumn)),
            .compare "=" (.column (linkName depth) "server_id")
              (.column qualifier name)])] ↔
      ∃ entry ∈ inventory.relations, entry.attributeId = reversed ∧
        entry.value = server.id ∧
        entry.owner = holder := by
  rw [Expression.allHold_hasRow]
  refine exists_iff_of_forall₂ outer.isStored.relations
    fun {entry row} isStored isRow => ?_
  have readServer : Scopes.read ((linkName depth, row) :: scopes) "server"
      (context.named .serverIdColumn) = some (database.number server.id) :=
    (sees.link row depth _).trans outer.isRow.id
  rw [Expression.allHold_cons, Expression.allHold_cons,
    Expression.allHold_singleton]
  exact and_congr
    (truth_compare_text outer.compares
      (read_link scopes depth isRow.attributeId))
    (and_congr
      (truth_compare_number outer.compares
        (read_link scopes depth (isRow.value _ rfl)) readServer)
      (truth_compare_number outer.compares (read_link scopes depth isRow.owner)
        (read_beneath_link apart read row)))

end Links

/-- A relation for links means the servers that a link leads to, if the relation
for holders means those that hold the link. -/
theorem linkedBy_means
    (means : relation.Means database server serverRow (depth + 1)
      (inventory.CarriesDirectly context.schema)
      (inventory.Holds context.schema contains server)) :
    (linkedBy context depth relation).Means database server serverRow depth
      (fun _ _ => True) (inventory.Linked context.schema contains server) := by
  intro via reached qualifier name servertypes condition isReached apart linked
  obtain ⟨attr, required, isLinked⟩ := linkedBy_eq_ok linked
  simp only [Inventory.linked_iff (Schema.requireAttribute_eq_ok.mp required)]
  generalize attr.type = type at isLinked ⊢
  cases isLinked with
  | hostname held =>
      obtain ⟨ownerParts, states, ownerHolds⟩ :=
        means (isColumn_owner (isWord_linkName depth))
          (fun _ => linkName_ne_later) held
      refine ⟨_, hostnameLink_states outer.valid depth isReached states via, ?_⟩
      intro scopes holder candidate sees read _
      refine allHold_hostnameLink outer apart read
        fun entry isStored isVia row isOwner => ?_
      exact isVia ▸ ownerHolds candidate (sees.link row depth)
        (read_link scopes depth isOwner)
        (isVia ▸ outer.isDirect.relations entry isStored)
  | supernet =>
      refine ⟨_, supernetLink_states outer.valid depth isReached _, ?_⟩
      intro scopes holder candidate sees read _
      exact allHold_supernetLink outer apart read sees _
  | reverseHostname =>
      refine ⟨_, reverseLink_states outer.valid depth isReached _, ?_⟩
      intro scopes holder candidate sees read _
      exact allHold_reverseLink outer apart read sees _

/-- However many links may be followed, the servers that hold an attribute are
meant. -/
theorem holderWithin_means (remaining depth : Nat) :
    (holderWithin context remaining depth).Means database server serverRow depth
      (inventory.CarriesDirectly context.schema)
      (inventory.Holds context.schema contains server) := by
  induction remaining generalizing depth with
  | zero =>
      refine holderBy_means outer fun _ _ failed => ?_
      simp at failed
  | succ remaining ih =>
      exact holderBy_means outer (linkedBy_means outer (ih (depth + 1)))

/-- The rows that meet the conditions of a stored attribute are those with its
id whose owners hold it. -/
theorem stored_finds {attr : Attribute} {table : String} {location : Location}
    (found : stored context attr table = .ok location)
    (candidate : server.servertype ∈ context.servertypes) (dialect : Dialect) :
    ∃ conditions, location = .existence table conditions "sub.value" none ∧
      ∀ {entry : Entry (Option Value)} {row : Row Value},
        inventory.CarriesDirectly context.schema entry.attributeId entry.owner →
        entry.IsRow database id row →
        ((Condition.conjunction conditions).truth? dialect database
          [("sub", row), ("server", serverRow)] = some .yes ↔
            entry.attributeId = attr.id ∧
              inventory.Holds context.schema contains server attr.id
                entry.owner) := by
  obtain ⟨owner, held, rfl⟩ := stored_eq_ok found
  have apart : ∀ later, 0 ≤ later → "sub" ≠ linkName later :=
    fun later _ => ne_linkName (by decide) later
  obtain ⟨parts, states, holds⟩ :=
    holderWithin_means outer _ _ isColumn_subOwner apart held
  refine ⟨_, rfl, fun {entry row} carries isRow => ?_⟩
  have conjoined := Condition.states_conjunction
    (.cons states (.cons (columnIs_states isColumn_subAttribute attr.id) .nil))
  have readOwn {column : String} {value : Option Value}
      (isValue : row column = value) :
      Scopes.read [("sub", row), ("server", serverRow)] "sub" column = value :=
    (read_sub row serverRow column).trans isValue
  rw [conjoined.truth?_eq_yes_iff, List.flatten_cons,
    List.flatten_cons, List.flatten_nil, List.append_nil,
    Expression.allHold_append, Expression.allHold_singleton,
    truth_compare_text outer.compares (readOwn isRow.attributeId), and_comm]
  exact and_congr_right fun isAttribute =>
    holds candidate (sees_sub row serverRow) (readOwn isRow.owner)
      (isAttribute ▸ carries)

end Meaning

/-! ## Stored attributes -/

theorem forall₂_rendered {schema : Schema} {Stored : Type}
    {value? : Stored → Option Value} {entries : List (Entry Stored)}
    {rows : List (Row Value)}
    (carried : ∀ entry ∈ entries,
      inventory.CarriesDirectly schema entry.attributeId entry.owner)
    (areRows : List.Forall₂ (Entry.IsRow database value?) entries rows) :
    List.Forall₂ (fun entry row =>
        inventory.CarriesDirectly schema entry.attributeId entry.owner ∧
        entry.IsRow database id row)
      (entries.map fun entry => { entry with value := value? entry.value })
      rows := by
  have areBoth := (List.forall₂_and_left _ _).mpr ⟨carried, areRows⟩
  refine List.forall₂_map_left_iff.mpr (areBoth.imp ?_)
  intro entry row ⟨carries, isRow⟩
  exact ⟨carries, isRow.rendered⟩

/-- The table of a stored attribute has the entries for attributes of its
type. -/
theorem forall₂_entries {attr : Attribute} {table : LayoutField}
    (isTable : attr.table? = some table)
    (isStored : inventory.IsStored context.layout database)
    (isDirect : inventory.IsDirect context.schema) :
    List.Forall₂ (fun entry row =>
        inventory.CarriesDirectly context.schema entry.attributeId
          entry.owner ∧
        entry.IsRow database id row)
      (inventory.entries database attr.type)
      (database.rows (context.named table)) := by
  unfold Attribute.table? at isTable
  cases type : attr.type with
  | scalar domain =>
      rw [type] at isTable
      obtain ⟨-, isSide⟩ := Option.ite_none_left_eq_some.mp isTable
      obtain rfl := Option.some.inj isSide
      exact forall₂_rendered (isDirect.values domain) (isStored.values domain)
  | hostname target =>
      rw [type] at isTable
      obtain rfl := Option.some.inj isTable
      exact forall₂_rendered isDirect.relations isStored.relations
  | supernet target | reverseHostname reversed => simp [type] at isTable

/-- The location of a stored attribute finds its values for an outer server: of
the rows of its table, those that have the id of the attribute and belong to a
server that holds the attribute for the outer one. -/
theorem resolve_finds_holders {declarations : List Declaration}
    (built : Schema.build declarations = .ok context.schema)
    (valid : context.layout.check = .ok ()) {attr : Attribute}
    (notSpecial : attr.special = none)
    (stored : (∃ domain, attr.type = .scalar domain) ∨ ∃ target,
      attr.type = .hostname target) {location : Location}
    (resolved : resolve context attr = .ok location)
    (compares : database.Compares contains)
    (isStored : inventory.IsStored context.layout database)
    (isDirect : inventory.IsDirect context.schema)
    (isServer : server ∈ inventory.servers)
    (isRow : server.IsRow context.layout database serverRow)
    (candidate : server.servertype ∈ context.servertypes) (dialect : Dialect) :
    ∃ table conditions,
      location = .existence table conditions "sub.value" none ∧
      List.Forall₂ (fun entry row => entry.IsRow database id row ∧
        ((Condition.conjunction conditions).truth? dialect database
          [("sub", row), ("server", serverRow)] = some .yes ↔
            entry.attributeId = attr.id ∧
              inventory.Holds context.schema contains server
                attr.id entry.owner))
        (inventory.entries database attr.type) (database.rows table) := by
  have outer : IsOuter context database contains inventory server serverRow :=
    ⟨valid, Schema.build_distinct built, compares, isStored, isDirect,
      isServer, isRow⟩
  obtain ⟨table, isTable⟩ := Attribute.exists_table notSpecial stored
  rw [resolve_eq_stored notSpecial isTable] at resolved
  obtain ⟨conditions, rfl, finds⟩ :=
    stored_finds outer resolved candidate dialect
  refine ⟨_, conditions, rfl,
    (forall₂_entries isTable isStored isDirect).imp ?_⟩
  intro entry row ⟨carries, isEntry⟩
  exact ⟨isEntry, finds carries isEntry⟩

/-- The rack of a virtual machine is that of the machine it runs on, and it has
no backup where that machine has none, for which there is a row without a
value. -/
theorem resolve_finds_holders_rack :
    let disabled : Attribute :=
      { id := "backup_disabled", type := .scalar .boolean }
    let host : Attribute :=
      { id := "host", type := .hostname (some "hypervisor") }
    let rack : Attribute := { id := "rack", type := .scalar .string }
    let schema : Schema := ⟨["hypervisor", "vm"], [disabled, host, rack],
      [⟨"hypervisor", "backup_disabled", none⟩, ⟨"hypervisor", "rack", none⟩,
        ⟨"vm", "backup_disabled", some "host"⟩, ⟨"vm", "host", none⟩,
        ⟨"vm", "rack", some "host"⟩]⟩
    let inventory : Inventory PlainValue :=
      { servers := [⟨1, "hypervisor", none⟩, ⟨2, "vm", none⟩]
        relations := [⟨2, "host", 1⟩]
        values
          | .boolean => [⟨1, "backup_disabled", ()⟩]
          | .string => [⟨1, "rack", .text "r1"⟩]
          | _ => [] }
    let database := inventory.asDatabase {} (.plain fun _ => [])
    let serverRow := Server.row {} database ⟨2, "vm", none⟩
    let context : Context := ⟨schema, {}, {}, ["hypervisor", "vm"], {}⟩
    (∃ table conditions row,
      resolve context rack =
        .ok (.existence table conditions "sub.value" none) ∧
      row ∈ database.rows table ∧ row "value" = some (.text "r1") ∧
      (Condition.conjunction conditions).truth? .postgres database
        [("sub", row), ("server", serverRow)] = some .yes) ∧
    ∃ table conditions row,
      resolve context disabled =
        .ok (.existence table conditions "sub.value" none) ∧
      row ∈ database.rows table ∧
      (Condition.conjunction conditions).truth? .postgres database
        [("sub", row), ("server", serverRow)] = some .yes := by
  intro disabled host rack schema inventory database serverRow context
  have built : Schema.build
    [.servertype "vm", .servertype "hypervisor", .attr host, .attr rack,
      .attr disabled, .binding ⟨"vm", "rack", some "host"⟩,
      .binding ⟨"vm", "host", none⟩,
      .binding ⟨"vm", "backup_disabled", some "host"⟩,
      .binding ⟨"hypervisor", "rack", none⟩,
      .binding ⟨"hypervisor", "backup_disabled", none⟩] = .ok schema := by cbv
  have distinct : Layout.IsDistinct {} := ⟨by decide, by decide⟩
  have compares : database.Compares fun _ _ => False := by
    constructor <;> simp [database, Inventory.asDatabase, Database.plain]
  have hostDirectly : schema.BindsDirectly "vm" "host" :=
    ⟨⟨"vm", "host", none⟩, rfl, rfl⟩
  have rackDirectly : schema.BindsDirectly "hypervisor" "rack" :=
    ⟨⟨"hypervisor", "rack", none⟩, rfl, rfl⟩
  have disabledDirectly : schema.BindsDirectly "hypervisor" "backup_disabled" :=
    ⟨⟨"hypervisor", "backup_disabled", none⟩, rfl, rfl⟩
  have isDirect : inventory.IsDirect schema := by
    constructor
    · simp [Inventory.CarriesDirectly, inventory, hostDirectly]
    · intro domain
      cases domain <;>
        simp [Inventory.CarriesDirectly, inventory, rackDirectly,
          disabledDirectly]
  have isServer : ⟨2, "vm", none⟩ ∈ inventory.servers := by simp [inventory]
  have isCandidate : "vm" ∈ context.servertypes := by simp [context]
  have isRow :=
    Server.isRow_row (.plain fun _ => []) inventory distinct ⟨2, "vm", none⟩
  have isStored := inventory.isStored_asDatabase (.plain fun _ => []) distinct
  -- The machine is the host of the virtual one, whose attributes it holds.
  have isHost : schema.findAttribute? "host" = some host := rfl
  have linked : inventory.Linked schema (fun _ _ => False) ⟨2, "vm", none⟩
      "host" 1 := by
    refine (Inventory.linked_iff isHost).mpr
      ⟨⟨2, "host", 1⟩, List.mem_cons_self, rfl, ?_, rfl⟩
    exact .direct
      (rfl : schema.binding? "vm" "host" = some ⟨"vm", "host", none⟩) rfl
  constructor
  · have resolved : ∃ location, resolve context rack = .ok location := ⟨_, rfl⟩
    obtain ⟨location, resolved⟩ := resolved
    obtain ⟨table, conditions, rfl, finds⟩ :=
      resolve_finds_holders built (by decide) rfl (.inl ⟨_, rfl⟩) resolved
        compares isStored isDirect isServer isRow isCandidate .postgres
    obtain ⟨row, isRow, isEntry, iff⟩ :=
      exists_of_forall₂_left finds List.mem_cons_self
    refine ⟨table, conditions, row, resolved, isRow, isEntry.value _ rfl,
      iff.mpr ⟨rfl, ?_⟩⟩
    exact .related
      (rfl : schema.binding? "vm" "rack" = some ⟨"vm", "rack", some "host"⟩)
      rfl linked
  · have resolved : ∃ location, resolve context disabled = .ok location :=
      ⟨_, rfl⟩
    obtain ⟨location, resolved⟩ := resolved
    obtain ⟨table, conditions, rfl, finds⟩ :=
      resolve_finds_holders built (by decide) rfl (.inl ⟨_, rfl⟩) resolved
        compares isStored isDirect isServer isRow isCandidate .postgres
    obtain ⟨row, isRow, -, iff⟩ :=
      exists_of_forall₂_left finds List.mem_cons_self
    refine ⟨table, conditions, row, resolved, isRow, iff.mpr ⟨rfl, ?_⟩⟩
    exact .related (rfl : schema.binding? "vm" "backup_disabled" =
      some ⟨"vm", "backup_disabled", some "host"⟩) rfl linked

end Location

end AttributeQuery
