import AttributeQuery.Proofs.Query.Splicing
import AttributeQuery.Proofs.Sql.Symbols

/-!
# Predicates and the locations they fit

The location of an attribute and the predicate of a leaf are found independently
of each other. They fit all the same, for the attributes of a schema that was
built: a predicate about networks meets a row that has one, a predicate that
says nothing meets a row, and neither the condition that results nor one of the
conjuncts in it is empty.
-/

namespace AttributeQuery

/-! ## Conditions with text -/

namespace Condition

/-- There is some text in a condition. -/
def HasText (condition : Condition) : Prop :=
  ∃ char, .inl char ∈ condition.symbols

variable {first second : Condition} {text : String}

theorem HasText.isEmpty (hasText : first.HasText) : first.isEmpty = false := by
  obtain ⟨char, member⟩ := hasText
  obtain ⟨piece, isPiece, -⟩ := List.mem_flatMap.mp member
  exact List.isEmpty_eq_false_iff.mpr (List.ne_nil_of_mem isPiece)

/-- What is rendered of a condition with text is not empty. -/
theorem HasText.render_ne_empty (hasText : first.HasText) (dialect : Dialect) :
    first.render dialect ≠ "" := by
  obtain ⟨char, member⟩ := hasText
  have written : ∀ {symbols : List (Char ⊕ SqlValue)}, .inl char ∈ symbols →
      ∀ write count, writeSymbols write count symbols ≠ "" := by
    intro symbols member write
    induction symbols with
    | nil => cases member
    | cons symbol rest ih =>
        intro count isEmpty
        cases symbol with
        | inl other => simp [writeSymbols] at isEmpty
        | inr value =>
            obtain ⟨-, isEmptyRest⟩ := String.append_eq_empty_iff.mp isEmpty
            exact ih (by simpa using member) (count + 1) isEmptyRest
  rw [render_eq_writeSymbols]
  exact written member _ 0

theorem hasText_sql (condition : Condition) (nonempty : text ≠ "") :
    (condition.sql text).HasText := by
  obtain ⟨char, member⟩ :=
    List.exists_mem_of_ne_nil text.toList (by simpa using nonempty)
  exact ⟨char, by simp [member]⟩

theorem hasText_raw (nonempty : text ≠ "") : (raw text).HasText :=
  hasText_sql empty nonempty

theorem HasText.sql (hasText : first.HasText) (text : String) :
    (first.sql text).HasText :=
  hasText.imp fun char member => by simp [member]

theorem HasText.param (hasText : first.HasText) (value : SqlValue) :
    (first.param value).HasText :=
  hasText.imp fun char member => by simp [member]

end Condition

/-- A template that has a hole for its column has text with any column. -/
theorem Template.hasText_apply {template : Template}
    (hasColumn : .column ∈ template.pieces) {column : String}
    (named : column ≠ "") : (template.apply column).HasText := by
  obtain ⟨char, member⟩ :=
    List.exists_mem_of_ne_nil column.toList (by simpa using named)
  refine ⟨char, ?_⟩
  rw [symbols_apply, List.mem_flatMap]
  exact ⟨.column, hasColumn, List.mem_map_of_mem member⟩

/-! ## Locations -/

namespace Location

variable {context : Context} {attr : Attribute} {location : Location}

theorem existsRow_hasText (table rowName : String)
    (conditions : List Condition) :
    (existsRow table rowName conditions).HasText :=
  Condition.hasText_sql _ (by decide)

theorem columnIs_hasText (column text : String) :
    (columnIs column text).HasText :=
  (Condition.hasText_raw (by simp)).param _

theorem columnsEqual_hasText (column other : String) :
    (columnsEqual column other).HasText :=
  Condition.hasText_raw (by simp)

theorem anyGuarded_hasText (context : Context) (strategies : List Strategy) :
    (anyGuarded context strategies).HasText := by
  unfold anyGuarded
  split
  · exact Condition.hasText_sql _ (by decide)
  · exact Condition.hasText_sql _ (by decide)

theorem containsServer_hasText (context : Context) (rowName : String) :
    (containsServer context rowName).HasText :=
  Condition.hasText_raw (by simp)

/-- The conditions of a relation have text. -/
def Relation.HasText (relation : Relation) : Prop :=
  ∀ {id : AttributeId} {reached : String} {servertypes : List ServertypeId}
    {condition : Condition}, relation id reached servertypes = .ok condition →
    condition.HasText

theorem linkedBy_hasText (context : Context) (depth : Nat) (holder : Relation) :
    Relation.HasText (linkedBy context depth holder) := by
  intro via reached servertypes condition linked
  obtain ⟨attr, -, isLinked⟩ := linkedBy_eq_ok linked
  generalize attr.type = type at isLinked
  cases isLinked <;> exact existsRow_hasText _ _ _

theorem holderBy_hasText {relation : Relation}
    (hasText : Relation.HasText relation) :
    Relation.HasText (holderBy context relation) := by
  intro id holder servertypes condition held
  obtain ⟨strategies, areStrategies, -, ⟨strategy, rfl, rfl, -⟩ | rfl⟩ :=
    holderBy_eq_ok held
  · obtain ⟨via, isStrategy⟩ := areStrategies.each strategy List.mem_cons_self
    cases via with
    | none =>
        rw [isStrategy.direct]
        exact columnsEqual_hasText _ _
    | some link => exact hasText isStrategy.condition
  · exact anyGuarded_hasText context strategies

theorem holderWithin_hasText (context : Context) (remaining depth : Nat) :
    Relation.HasText (holderWithin context remaining depth) := by
  cases remaining with
  | zero => exact holderBy_hasText fun exceeded => by simp at exceeded
  | succ remaining => exact holderBy_hasText (linkedBy_hasText context depth _)

/-- A location whose columns have names and whose conditions, if it is a row,
all have text. -/
inductive IsComplete : Location → Prop where
  | column {name : String} (named : name ≠ "") : IsComplete (.column name)
  | existence {table valueColumn : String} {conditions : List Condition}
      {networkColumn : Option String} (isSome : conditions ≠ [])
      (each : ∀ condition ∈ conditions, condition.HasText)
      (named : ∀ subject,
        subjectColumn valueColumn networkColumn subject ≠ "") :
      IsComplete (.existence table conditions valueColumn networkColumn)

/-- The location of every attribute is complete. -/
theorem resolve_isComplete (resolved : resolve context attr = .ok location) :
    location.IsComplete := by
  cases resolve_eq_ok resolved with
  | column => exact .column (by simp [serverColumn])
  | supernet =>
      refine .existence (by simp) ?_ fun subject => ?_
      · simp only [List.forall_mem_cons]
        exact ⟨columnIs_hasText _ _, containsServer_hasText _ _,
          List.forall_mem_nil _⟩
      · cases subject <;> simp [subjectColumn]
  | reverseHostname =>
      refine .existence (by simp) ?_ fun subject => ?_
      · simp only [List.forall_mem_cons]
        exact ⟨columnIs_hasText _ _, columnsEqual_hasText _ _,
          List.forall_mem_nil _⟩
      · cases subject <;> decide
  | stored _ _ held =>
      refine .existence (by simp) ?_ fun subject => ?_
      · simp only [List.forall_mem_cons]
        exact ⟨holderWithin_hasText context _ _ held, columnIs_hasText _ _,
          List.forall_mem_nil _⟩
      · cases subject <;> decide

end Location

/-! ## Predicates -/

namespace Predicate

variable {context : Context} {attr : Attribute} {predicate : Predicate}

/-- Only what contains a supernet or is contained in it is about networks. -/
theorem IsContainment.isSupernet {relation : Containment} {literal : Literal}
    (isContainment : IsContainment context attr relation literal predicate)
    (network : predicate.subject = .network) :
    ∃ target, attr.type = .supernet target := by
  cases isContainment with
  | supernet type => exact ⟨_, type⟩
  | network | text => cases network

/-- Only a leaf about a supernet is about networks. -/
theorem isSupernet_of_ofLeaf {leaf : Leaf}
    (built : ofLeaf context attr leaf = .ok predicate)
    (network : predicate.subject = .network) :
    ∃ target, attr.type = .supernet target := by
  cases ofLeaf_eq_ok.mp built with
  | boolean | equality | comparison | presence => cases network
  | pattern _ isPattern => cases isPattern <;> cases network
  | containment _ isContainment => exact isContainment.isSupernet network

/-- A predicate was built for an attribute: that of a leaf, or that of a list of
literals. -/
inductive IsBuilt (context : Context) (attr : Attribute)
    (predicate : Predicate) : Prop where
  | leaf (filter : Filter)
      (built : ofFilter context attr filter = .ok predicate)
  | membership (literals : List Literal)
      (built : ofMembership context attr literals = .ok predicate)

theorem IsBuilt.isSupernet (isBuilt : IsBuilt context attr predicate)
    (network : predicate.subject = .network) :
    ∃ target, attr.type = .supernet target := by
  cases isBuilt with
  | leaf filter built =>
      cases filter with
      | leaf leaf => exact isSupernet_of_ofLeaf built network
      | not | all | any => cases built
  | membership literals built =>
      obtain ⟨bound, -, returned⟩ := bind_eq_ok.mp built
      obtain rfl := pure_eq_ok.mp returned
      cases network

theorem IsBuilt.column_mem_or_isEmpty
    (isBuilt : IsBuilt context attr predicate) :
    .column ∈ predicate.template.pieces ∨
      predicate.template.isEmpty = true ∧ attr.isSpecial = false := by
  cases isBuilt with
  | leaf filter built =>
      cases filter with
      | leaf leaf => exact column_mem_or_isEmpty_ofLeaf built
      | not | all | any => cases built
  | membership literals built => exact .inl (column_mem_ofMembership built)

end Predicate

/-! ## Located predicates -/

namespace Location

variable {context : Context} {attr : Attribute} {location : Location}
  {predicate : Predicate}

/-- What has to hold together where a predicate is located: the conditions on a
row and what the predicate says about it, unless it says nothing. -/
def conjuncts (predicate : Predicate) : Location → List Condition
  | .column name => [predicate.template.apply name]
  | .existence _ conditions valueColumn networkColumn =>
      conditions ++
        if predicate.template.isEmpty then []
        else [predicate.template.apply
          (subjectColumn valueColumn networkColumn predicate.subject)]

/-- The condition at a location in which some conjuncts hold together: the query
for a row where the location is one. -/
def conjoined (conjuncts : List Condition) : Location → Condition
  | .column _ => Condition.conjunction conjuncts
  | .existence table _ _ _ => existsRow table "sub" conjuncts

/-- A located predicate is the condition of its conjuncts. -/
theorem located_eq_conjoined (location : Location) (predicate : Predicate) :
    location.located predicate =
      location.conjoined (location.conjuncts predicate) := by
  cases location with
  | column name => rfl
  | existence table conditions valueColumn networkColumn => rfl

/-- A located predicate has text, as soon as each of its conjuncts does and
there is one. -/
theorem located_hasText (isSome : location.conjuncts predicate ≠ [])
    (each : ∀ conjunct ∈ location.conjuncts predicate, conjunct.HasText) :
    (location.located predicate).HasText := by
  cases location with
  | column name => exact each _ List.mem_cons_self
  | existence table conditions valueColumn networkColumn =>
      exact existsRow_hasText _ _ _

theorem apply_hasText (hasText : (location.located predicate).HasText) :
    (location.apply predicate).HasText := by
  unfold apply
  split
  · exact Condition.hasText_sql _ (by decide)
  · exact hasText

/-- At a complete location, a predicate has conjuncts and all of them have text;
only at a row may the predicate itself be none of them. -/
theorem IsComplete.conjuncts (isComplete : location.IsComplete)
    (fits : .column ∈ predicate.template.pieces ∨
      predicate.template.isEmpty = true ∧ ∀ name, location ≠ .column name) :
    location.conjuncts predicate ≠ [] ∧
      ∀ conjunct ∈ location.conjuncts predicate, conjunct.HasText := by
  cases isComplete with
  | column named =>
      refine ⟨by simp [Location.conjuncts], ?_⟩
      have hasColumn := fits.resolve_right fun empty => empty.2 _ rfl
      exact List.forall_mem_cons.mpr
        ⟨Template.hasText_apply hasColumn named, List.forall_mem_nil _⟩
  | existence isSome each named =>
      refine ⟨fun isEmpty => isSome (List.append_eq_nil_iff.mp isEmpty).1, ?_⟩
      refine List.forall_mem_append.mpr ⟨each, ?_⟩
      rcases fits with hasColumn | ⟨isEmpty, -⟩
      · split
        · exact List.forall_mem_nil _
        · exact List.forall_mem_cons.mpr
            ⟨Template.hasText_apply hasColumn (named predicate.subject),
              List.forall_mem_nil _⟩
      · rw [if_pos isEmpty]
        exact List.forall_mem_nil _

/-- The location of a supernet has a network column besides the column of the
id. -/
theorem exists_networkColumn_of_resolve {target : ServertypeId}
    (isSupernet : attr.type = .supernet target)
    (notSpecial : attr.isSpecial = false)
    (resolved : resolve context attr = .ok location) :
    ∃ table conditions valueColumn networkColumn,
      location = .existence table conditions valueColumn
        (some networkColumn) := by
  have noField : attr.special = none := by
    simpa [Attribute.isSpecial] using notSpecial
  simp only [resolve, ofType, noField, isSupernet] at resolved
  obtain ⟨-, returned⟩ := check_bind_eq_ok.mp resolved
  exact ⟨_, _, _, _, (pure_eq_ok.mp returned).symm⟩

section Fitting

variable {declarations : List Declaration} {schema : Schema}

/-- The predicates of an attribute of a built schema fit its location. One about
networks meets a row with a network column, one that says nothing meets a row
with conditions, and what they make together is not empty: it is the query for a
row in which all of the conjuncts hold, or the one conjunct there is, and none
of these is empty. -/
theorem resolve_fits (built : Schema.build declarations = .ok schema)
    (member : attr ∈ schema.attributes)
    (resolved : resolve context attr = .ok location)
    (isBuilt : Predicate.IsBuilt context attr predicate) :
    (predicate.subject = .network →
      ∃ table conditions valueColumn networkColumn,
        location = .existence table conditions valueColumn
          (some networkColumn)) ∧
    (predicate.template.isEmpty = true →
      ∃ table conditions valueColumn networkColumn,
        location = .existence table conditions valueColumn networkColumn ∧
          conditions ≠ []) ∧
    ((location.apply predicate).isEmpty = false ∧
      ∀ dialect, (location.apply predicate).render dialect ≠ "") ∧
    location.located predicate =
      location.conjoined (location.conjuncts predicate) ∧
    location.conjuncts predicate ≠ [] ∧
    ∀ conjunct ∈ location.conjuncts predicate,
      conjunct.isEmpty = false ∧ ∀ dialect, conjunct.render dialect ≠ "" := by
  have isComplete := resolve_isComplete resolved
  have fits : .column ∈ predicate.template.pieces ∨
      predicate.template.isEmpty = true ∧ ∀ name, location ≠ .column name :=
    isBuilt.column_mem_or_isEmpty.imp_right <| And.imp_right fun notSpecial =>
      ne_column_of_resolve notSpecial resolved
  obtain ⟨isSome, each⟩ := isComplete.conjuncts fits
  have hasText := apply_hasText (located_hasText isSome each)
  refine ⟨fun network => ?_,
    fun isEmpty => ?_, ⟨hasText.isEmpty, hasText.render_ne_empty⟩,
    located_eq_conjoined location predicate, isSome,
    fun conjunct isConjunct => ⟨(each conjunct isConjunct).isEmpty,
      (each conjunct isConjunct).render_ne_empty⟩⟩
  · obtain ⟨target, isSupernet⟩ := isBuilt.isSupernet network
    refine exists_networkColumn_of_resolve isSupernet ?_ resolved
    -- A special attribute of a built schema is a scalar.
    rw [← Bool.not_eq_true]
    intro isSpecial
    have notLink := Schema.build_special built member isSpecial
    simp [Attribute.isLink, isSupernet, AttributeType.isLink] at notLink
  · cases isComplete with
    | column named =>
        have hasColumn := fits.resolve_right fun empty => empty.2 _ rfl
        rw [List.isEmpty_iff.mp isEmpty] at hasColumn
        cases hasColumn
    | existence hasConditions each named =>
        exact ⟨_, _, _, _, rfl, hasConditions⟩

/-- A network is sought with the network of the supernet around a server, and a
boolean by the row that is there when it is true. -/
theorem resolve_fits_route :
    let route : Attribute :=
      { id := "route", type := .supernet "route_network" }
    let managed : Attribute := { id := "managed", type := .scalar .boolean }
    let schema : Schema :=
      ⟨["route_network", "vm"], [managed, route], [⟨"vm", "managed", none⟩]⟩
    let context : Context := ⟨schema, {}, {}, ["vm"], {}⟩
    let network : Leaf := .containment .startsWith (.string "10.0.0.0/8")
    ∃ supernet inSupernet row isManaged,
      resolve context route = .ok supernet ∧
      Predicate.ofLeaf context route network = .ok inSupernet ∧
      (∃ table conditions valueColumn networkColumn,
        supernet = .existence table conditions valueColumn
          (some networkColumn)) ∧
      (supernet.apply inSupernet).isEmpty = false ∧
      resolve context managed = .ok row ∧
      Predicate.ofLeaf context managed (.equals (.boolean true)) =
        .ok isManaged ∧
      (∃ table conditions valueColumn networkColumn,
        row = .existence table conditions valueColumn networkColumn ∧
          conditions ≠ []) ∧
      (row.apply isManaged).isEmpty = false := by
  intro route managed schema context network
  have built : Schema.build
    [.servertype "vm", .servertype "route_network", .attr route,
      .attr managed, .binding ⟨"vm", "managed", none⟩] = .ok schema := by cbv
  have isDeclared : route ∈ schema.attributes :=
    List.mem_cons_of_mem _ List.mem_cons_self
  have resolved : ∃ location, resolve context route = .ok location := ⟨_, rfl⟩
  have resolvedManaged : ∃ location, resolve context managed = .ok location :=
    ⟨_, rfl⟩
  have isBuilt : ∃ predicate,
      Predicate.ofLeaf context route network = .ok predicate ∧
      predicate.subject = .network := ⟨_, rfl, rfl⟩
  have isBuiltManaged : ∃ predicate,
      Predicate.ofLeaf context managed (.equals (.boolean true)) =
        .ok predicate ∧
      predicate.template.isEmpty = true := ⟨_, rfl, rfl⟩
  obtain ⟨supernet, resolved⟩ := resolved
  obtain ⟨row, resolvedManaged⟩ := resolvedManaged
  obtain ⟨inSupernet, isBuilt, isNetwork⟩ := isBuilt
  obtain ⟨isManaged, isBuiltManaged, saysNothing⟩ := isBuiltManaged
  obtain ⟨hasNetwork, -, ⟨nonempty, -⟩, -⟩ :=
    resolve_fits built isDeclared resolved (.leaf (.leaf network) isBuilt)
  obtain ⟨-, hasConditions, ⟨nonemptyManaged, -⟩, -⟩ :=
    resolve_fits built List.mem_cons_self resolvedManaged
      (.leaf (.leaf _) isBuiltManaged)
  exact ⟨supernet, inSupernet, row, isManaged, resolved, isBuilt,
    hasNetwork isNetwork, nonempty,
    resolvedManaged, isBuiltManaged, hasConditions saysNothing, nonemptyManaged⟩

end Fitting

end Location

end AttributeQuery
