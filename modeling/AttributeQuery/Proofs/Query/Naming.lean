import AttributeQuery.Proofs.Query.Assembly
import AttributeQuery.Proofs.Query.Congruence
import AttributeQuery.Proofs.Sql.Stencil

/-!
# Names of the layout in statements

Everything that is compiled takes names from the layout, and nothing else: for
one schema and one query, predicates, locations, conditions and statements are
made with one stencil for all layouts, or fail alike for all of them.
-/

namespace AttributeQuery

/-- The context with another layout. -/
def Context.withLayout (context : Context) (layout : Layout) : Context :=
  { context with layout }

namespace Context

@[simp] theorem dialect_withLayout (context : Context) (layout : Layout) :
    (context.withLayout layout).dialect = context.dialect := rfl

@[simp] theorem schema_withLayout (context : Context) (layout : Layout) :
    (context.withLayout layout).schema = context.schema := rfl

@[simp] theorem options_withLayout (context : Context) (layout : Layout) :
    (context.withLayout layout).options = context.options := rfl

@[simp] theorem servertypes_withLayout (context : Context) (layout : Layout) :
    (context.withLayout layout).servertypes = context.servertypes := rfl

@[simp] theorem named_withLayout (context : Context) (layout : Layout)
    (field : LayoutField) :
    (context.withLayout layout).named field = layout.name field := rfl

end Context

variable {context : Context} {attr : Attribute}

/-! ## Templates -/

/-- Pieces for all layouts that differ by names of the layout. -/
inductive TemplatePiece.IsUniform : (Layout → TemplatePiece) → Prop where
  | sql {text : Layout → String} (uniform : Text.IsUniform text) :
      IsUniform fun layout => .sql (text layout)
  | param (value : SqlValue) : IsUniform fun _ => .param value
  | column : IsUniform fun _ => .column

theorem TemplatePiece.IsUniform.const (piece : TemplatePiece) :
    IsUniform fun _ => piece := by
  cases piece with
  | sql text => exact .sql (.const text)
  | param value => exact .param value
  | column => exact .column

namespace Template

/-- Templates for all layouts that differ by names of the layout. -/
def IsUniform (template : Layout → Template) : Prop :=
  AreUniform TemplatePiece.IsUniform fun layout => (template layout).pieces

namespace IsUniform

variable {template : Layout → Template}

theorem const (template : Template) : IsUniform fun _ => template :=
  ⟨template.pieces.map fun piece _ => piece,
    List.forall_mem_map.mpr fun piece _ => .const piece, fun layout => by
      simp [Function.comp_def]⟩

theorem isEmpty (uniform : IsUniform template) :
    ∃ isEmpty, ∀ layout, (template layout).isEmpty = isEmpty := by
  obtain ⟨families, -, same⟩ := uniform
  exact ⟨families.isEmpty, fun layout => by simp [Template.isEmpty, same]⟩

theorem apply (uniform : IsUniform template) {column : Layout → String}
    (uniformColumn : Text.IsUniform column) :
    Condition.IsUniform fun layout =>
      (template layout).apply (column layout) := by
  have filled : ∀ {families : List (Layout → TemplatePiece)},
      (∀ family ∈ families, TemplatePiece.IsUniform family) →
      ∀ {applied : Layout → Condition}, Condition.IsUniform applied →
      Condition.IsUniform fun layout => (families.map (· layout)).foldl
        (applyPiece (column layout)) (applied layout) := by
    intro families each
    induction families with
    | nil => exact fun uniform => uniform
    | cons family rest ih =>
        obtain ⟨isUniform, eachRest⟩ := List.forall_mem_cons.mp each
        intro applied uniformApplied
        cases isUniform with
        | sql uniformText => exact ih eachRest (uniformApplied.sql uniformText)
        | param value => exact ih eachRest (uniformApplied.param value)
        | column => exact ih eachRest (uniformApplied.sql uniformColumn)
  obtain ⟨families, each, same⟩ := uniform
  simp only [Template.apply, same]
  exact filled each (.const .empty)

end IsUniform

end Template

/-! ## Predicates -/

namespace Predicate

/-- Predicates for all layouts that differ by names of the layout in their
templates. -/
inductive IsUniform : (Layout → Predicate) → Prop where
  | of {template : Layout → Template} (uniform : Template.IsUniform template)
      (subject : Subject) (isNegated : Bool) :
      IsUniform fun layout => ⟨template layout, subject, isNegated⟩

theorem IsUniform.const (predicate : Predicate) :
    IsUniform fun _ => predicate :=
  .of (.const predicate.template) predicate.subject predicate.isNegated

/-- A predicate that is made without the layout. -/
theorem computesUniform_const (computed : Except CompileError Predicate) :
    ComputesUniform IsUniform fun _ => computed :=
  .const fun predicate _ => .const predicate

theorem ofPattern_isUniform (pattern : String) :
    ComputesUniform IsUniform fun layout =>
      ofPattern (context.withLayout layout) attr pattern := by
  dsimp only [ofPattern, Context.dialect_withLayout, Context.named_withLayout]
  refine .after fun _ _ => .after fun symbol _ => ?_
  cases isLink : attr.isLink with
  | true =>
      have selected :=
        (Text.IsUniform.const " IN (SELECT ").thenName .serverIdColumn
      have source := (selected.thenText " FROM ").thenName .serverTable
      have filtered := (source.thenText " WHERE ").thenName .hostnameColumn
      have matched := ((filtered.thenText " ").thenText symbol).thenText " "
      refine .ok (.of ?_ .value false)
      exact .cons .column (.cons (.sql matched) (.cons (.param (.text pattern))
        (.cons (.const (.sql ")")) .nil)))
  | false => exact computesUniform_const _

theorem networkTemplate_isUniform (relation : Containment) (literal : Literal) :
    ComputesUniform Template.IsUniform fun layout =>
      networkTemplate (context.withLayout layout) attr relation literal := by
  dsimp only [networkTemplate, Context.dialect_withLayout,
    Context.named_withLayout]
  refine .after fun _ _ => .after fun value _ => ?_
  cases relation with
  | containedOnlyBy =>
      have fixed (template : Template) : AreUniform TemplatePiece.IsUniform
          fun _ => template.pieces := Template.IsUniform.const template
      have source :=
        ((Text.IsUniform.const " AND NOT EXISTS (SELECT 1 FROM ").thenName
          .serverTable).thenText " AS supernet WHERE "
      have outer :=
        (Text.IsUniform.const " << supernet.").thenName .networkColumn
      have between :=
        ((outer.thenText " AND supernet.").thenName .networkColumn).thenText
          " << "
      have network :=
        fixed ⟨.param value :: Template.castPieces (context.dialect.cast .inet)⟩
      have below := (fixed ⟨[.column, .sql " << "]⟩).append network
      have rows :=
        below.append
          (.cons (.sql source) (.cons .column (.cons (.sql between) .nil)))
      exact .ok ((rows.append network).append (fixed ⟨[.sql ")"]⟩))
  | startsWith | contains | containedBy | overlaps => exact .ok (.const _)

theorem ofContainment_isUniform (relation : Containment) (literal : Literal) :
    ComputesUniform IsUniform fun layout =>
      ofContainment (context.withLayout layout) attr relation literal := by
  unfold ofContainment
  generalize attr.type = type
  cases type with
  | supernet target =>
      exact (networkTemplate_isUniform relation literal).bind fun _ uniform =>
        .ok (.of uniform .network false)
  | scalar domain =>
      cases domain with
      | inet =>
          exact (networkTemplate_isUniform relation literal).bind
              fun _ uniform =>
            .ok (.of uniform .value false)
      | string =>
          cases literal with
          | string text =>
              dsimp only [Context.dialect_withLayout]
              refine .after fun _ _ => ?_
              cases textTemplate? context.dialect relation text <;>
                exact computesUniform_const _
          | boolean | integer | float | inet => exact computesUniform_const _
      | boolean | number | macaddr | date | datetime =>
          exact computesUniform_const _
  | hostname | reverseHostname => exact computesUniform_const _

/-- The predicates of a leaf for all layouts are uniform. -/
theorem ofLeaf_isUniform (leaf : Leaf) :
    ComputesUniform IsUniform fun layout =>
      ofLeaf (context.withLayout layout) attr leaf := by
  unfold ofLeaf
  cases attr.isBoolean with
  | true => exact computesUniform_const _
  | false =>
      cases leaf with
      | equals literal =>
          exact computesUniform_const (ofEquality context attr literal)
      | comparison relation literal =>
          exact computesUniform_const
            (ofComparison context attr relation literal)
      | empty => exact computesUniform_const _
      | regexp pattern => exact ofPattern_isUniform pattern
      | containment relation literal =>
          exact ofContainment_isUniform relation literal

theorem ofFilter_isUniform (filter : Filter) :
    ComputesUniform IsUniform fun layout =>
      ofFilter (context.withLayout layout) attr filter := by
  cases filter with
  | leaf leaf => exact ofLeaf_isUniform leaf
  | not | all | any => exact computesUniform_const _

theorem ofMembership_isUniform (literals : List Literal) :
    ComputesUniform IsUniform fun layout =>
      ofMembership (context.withLayout layout) attr literals := by
  have same (layout : Layout) : ofMembership (context.withLayout layout) attr
      (literals.map id) =
      ofMembership context attr literals := ofMembership_map fun _ _ => rfl
  rw [List.map_id] at same
  simpa only [same] using
    computesUniform_const (ofMembership context attr literals)

end Predicate

/-! ## Locations -/

namespace Location

/-- Locations for all layouts that differ by names of the layout. -/
inductive IsUniform : (Layout → Location) → Prop where
  | column {name : Layout → String} (uniform : Text.IsUniform name) :
      IsUniform fun layout => .column (name layout)
  | existence {table valueColumn : Layout → String}
        {conditions : Layout → List Condition}
        {networkColumn : Layout → Option String}
        (uniformTable : Text.IsUniform table)
        (uniformConditions : AreUniform Condition.IsUniform conditions)
        (uniformColumn : ∀ subject, Text.IsUniform fun layout =>
          subjectColumn (valueColumn layout) (networkColumn layout) subject) :
      IsUniform fun layout =>
        .existence (table layout) (conditions layout) (valueColumn layout)
          (networkColumn layout)

theorem existsRow_isUniform {table : Layout → String}
    (uniformTable : Text.IsUniform table) (rowName : String)
    {conditions : Layout → List Condition}
    (uniform : AreUniform Condition.IsUniform conditions) :
    Condition.IsUniform fun layout =>
      existsRow (table layout) rowName (conditions layout) := by
  have source :=
    (Text.IsUniform.const "EXISTS (SELECT 1 FROM ").append uniformTable
  have opened := ((source.thenText " AS ").thenText rowName).thenText " WHERE "
  exact ((Condition.IsUniform.raw opened).append (.conjunction uniform)).sql
    (.const ")")

/-- What predicates say at locations is uniform if both are. -/
theorem apply_isUniform {location : Layout → Location}
    (uniform : IsUniform location) {predicate : Layout → Predicate}
    (uniformPredicate : Predicate.IsUniform predicate) :
    Condition.IsUniform fun layout =>
      (location layout).apply (predicate layout) := by
  cases uniformPredicate with
  | @of template uniformTemplate subject isNegated =>
      have located : Condition.IsUniform fun layout =>
          (location layout).located ⟨template layout, subject, isNegated⟩ := by
        cases uniform with
        | column uniformName => exact uniformTemplate.apply uniformName
        | existence uniformTable uniformConditions uniformColumn =>
            refine existsRow_isUniform uniformTable "sub"
              (uniformConditions.append ?_)
            obtain ⟨isEmpty, same⟩ := uniformTemplate.isEmpty
            simp only [same]
            cases isEmpty with
            | true => exact .nil
            | false =>
                exact .cons (uniformTemplate.apply (uniformColumn subject)) .nil
      cases isNegated with
      | true => exact located.negate
      | false => exact located

theorem columnIs_isUniform {column : Layout → String}
    (uniform : Text.IsUniform column) (text : String) :
    Condition.IsUniform fun layout => columnIs (column layout) text :=
  (Condition.IsUniform.raw (uniform.thenText " = ")).param _

theorem columnsEqual_isUniform {column other : Layout → String}
    (uniform : Text.IsUniform column) (uniformOther : Text.IsUniform other) :
    Condition.IsUniform fun layout =>
      columnsEqual (column layout) (other layout) :=
  .raw ((uniform.thenText " = ").append uniformOther)

theorem serverColumn_isUniform (field : LayoutField) :
    Text.IsUniform fun layout => serverColumn (layout.name field) :=
  (Text.IsUniform.const "server.").thenName field

theorem containsServer_isUniform (rowName : String) :
    Condition.IsUniform fun layout =>
      containsServer (context.withLayout layout) rowName :=
  .raw (((((Text.IsUniform.const rowName).thenText ".").thenName
    .networkColumn).thenText " >>= server.").thenName .networkColumn)

theorem servertypeGuard_isUniform (servertypes : List ServertypeId) :
    Condition.IsUniform fun layout =>
      servertypeGuard (context.withLayout layout) servertypes :=
  ((Condition.IsUniform.raw ((serverColumn_isUniform .servertypeColumn).thenText
    " IN (")).append (.const _)).sql (.const ")")

/-- Strategies for all layouts, for the same servertypes and with uniform
conditions. -/
inductive Strategy.IsUniform : (Layout → Strategy) → Prop where
  | of (servertypes : List ServertypeId) {condition : Layout → Condition}
      (uniform : Condition.IsUniform condition) :
      IsUniform fun layout => ⟨servertypes, condition layout⟩

theorem anyGuarded_isUniform {strategies : Layout → List Strategy}
    (uniform : AreUniform Strategy.IsUniform strategies) :
    Condition.IsUniform fun layout =>
      anyGuarded (context.withLayout layout) (strategies layout) := by
  have each : ∀ strategy : Layout → Strategy, Strategy.IsUniform strategy →
      Condition.IsUniform fun layout => guarded (context.withLayout layout)
        (strategy layout) := by
    rintro - ⟨servertypes, uniform⟩
    exact .join
      (.cons (servertypeGuard_isUniform servertypes) (.cons uniform .nil))
  have any : Condition.IsUniform fun layout =>
      Condition.join "OR"
          ((strategies layout).map (guarded (context.withLayout layout))) :=
    .join (uniform.map each)
  obtain ⟨families, isUniform, same⟩ := uniform
  simp only [same] at any ⊢
  rcases families with _ | ⟨strategy, _ | ⟨next, others⟩⟩
  · exact any
  · exact each strategy (isUniform strategy List.mem_cons_self)
  · exact any

/-- Relations for all layouts whose conditions are uniform. -/
def Relation.IsUniform (relation : Layout → Relation) : Prop :=
  ∀ (id : AttributeId) (reached : String) (servertypes : List ServertypeId),
    ComputesUniform Condition.IsUniform fun layout =>
      relation layout id reached servertypes

theorem linkStrategy_isUniform {relation : Layout → Relation}
    (uniform : Relation.IsUniform relation) (holder : String)
    (bindings : List Binding) (via : AttributeId) :
    ComputesUniform Strategy.IsUniform fun layout =>
      linkStrategy (relation layout) holder bindings via :=
  (uniform via holder _).bind fun _ uniformCondition =>
    .ok (.of _ uniformCondition)

theorem directStrategy_isUniform (holder : String) (bindings : List Binding) :
    AreUniform Strategy.IsUniform fun layout =>
      directStrategy (context.withLayout layout) holder bindings := by
  unfold directStrategy
  cases boundVia bindings none with
  | nil => exact .nil
  | cons first rest =>
      exact .cons
        (.of _ (columnsEqual_isUniform (serverColumn_isUniform _)
          (.const holder))) .nil

theorem holderBy_isUniform {relation : Layout → Relation}
    (uniform : Relation.IsUniform relation) :
    Relation.IsUniform fun layout => holderBy (context.withLayout layout)
      (relation layout) := by
  intro id holder servertypes
  unfold holderBy
  have bound (layout : Layout) : bindingsOf (context.withLayout layout) id
      servertypes = bindingsOf context id servertypes := rfl
  simp only [bound]
  cases bindingsOf context id servertypes with
  | nil => exact .error _
  | cons first rest =>
      refine (ComputesUniform.mapM fun via _ =>
        linkStrategy_isUniform uniform _ _ via).bind
          fun related uniformRelated => ?_
      have uniformDirect : AreUniform Strategy.IsUniform fun layout =>
          directStrategy (context.withLayout layout) holder (first :: rest) :=
        directStrategy_isUniform holder (first :: rest)
      obtain ⟨families, each, same⟩ := uniformDirect.append uniformRelated
      simp only [same]
      have any : Condition.IsUniform fun layout =>
          anyGuarded (context.withLayout layout) (families.map (· layout)) :=
        anyGuarded_isUniform ⟨families, each, fun _ => rfl⟩
      rcases families with _ | ⟨strategy, _ | ⟨next, others⟩⟩
      · exact .ok any
      · -- A single strategy needs a guard for some servertypes, whatever its
        -- condition is.
        have guarded (layout : Layout) :
            needsGuard servertypes (first :: rest) [strategy layout] =
              needsGuard servertypes (first :: rest) [⟨[], .empty⟩] := rfl
        simp only [List.map_cons, List.map_nil, guarded]
        cases needsGuard servertypes (first :: rest) [⟨[], .empty⟩] with
        | true => exact .ok any
        | false =>
            cases each strategy List.mem_cons_self with
            | of servertypes uniformCondition => exact .ok uniformCondition
      · exact .ok any

theorem linkedBy_isUniform (depth : Nat) {holder : Layout → Relation}
    (uniform : Relation.IsUniform holder) :
    Relation.IsUniform fun layout =>
      linkedBy (context.withLayout layout) depth (holder layout) := by
  intro via reached servertypes
  dsimp only [linkedBy, Context.schema_withLayout, Context.dialect_withLayout,
    Context.named_withLayout]
  refine .after fun attr _ => ?_
  cases attr.type with
  | scalar domain => exact .error _
  | hostname target =>
      exact (uniform via _ servertypes).bind fun _ uniformOwner =>
        .ok (existsRow_isUniform (.name .relationTable) _ (.cons (.const _)
          (.cons uniformOwner (.cons (.const _) .nil))))
  | supernet target =>
      have column (field : LayoutField) : Text.IsUniform fun layout =>
          linkName depth ++ "." ++ layout.name field :=
            .thenName (.const _) field
      exact .after fun _ _ => .ok (existsRow_isUniform (.name .serverTable) _
        (.cons (columnIs_isUniform (column .servertypeColumn) target)
          (.cons (containsServer_isUniform _)
            (.cons (columnsEqual_isUniform (column .serverIdColumn)
              (.const reached)) .nil))))
  | reverseHostname reversed =>
      exact .ok (existsRow_isUniform (.name .relationTable) _ (.cons (.const _)
        (.cons (columnsEqual_isUniform (.const _)
          (serverColumn_isUniform .serverIdColumn)) (.cons (.const _) .nil))))

theorem holderWithin_isUniform (remaining depth : Nat) :
    Relation.IsUniform fun layout =>
      holderWithin (context.withLayout layout) remaining depth := by
  induction remaining generalizing depth with
  | zero =>
      exact holderBy_isUniform fun via _ _ =>
        .error (CompileError.relationDepthExceeded via
          context.options.maxRelationDepth)
  | succ remaining ih =>
      exact holderBy_isUniform (linkedBy_isUniform depth (ih (depth + 1)))

theorem stored_isUniform {table : Layout → String}
    (uniform : Text.IsUniform table) :
    ComputesUniform IsUniform fun layout =>
      stored (context.withLayout layout) attr (table layout) := by
  dsimp only [stored, Context.options_withLayout,
    Context.servertypes_withLayout]
  refine (holderWithin_isUniform _ 0 attr.id "sub.server_id"
    context.servertypes).bind fun _ uniformOwner =>
    .ok (.existence uniform (.cons uniformOwner (.cons (.const _) .nil))
      fun subject => ?_)
  cases subject <;> exact .const _

/-- The locations of an attribute for all layouts are uniform. -/
theorem resolve_isUniform :
    ComputesUniform IsUniform fun layout =>
      resolve (context.withLayout layout) attr := by
  unfold resolve
  cases attr.special with
  | some special => exact .ok (.column (.const _))
  | none =>
      dsimp only [ofType, Context.dialect_withLayout, Context.named_withLayout]
      cases attr.type with
      | scalar domain => exact stored_isUniform (.name (.sideTable domain))
      | hostname target => exact stored_isUniform (.name .relationTable)
      | supernet target =>
          have column (field : LayoutField) : Text.IsUniform fun layout =>
              "sub." ++ layout.name field := .thenName (.const _) field
          refine .after fun _ _ => .ok (.existence (.name .serverTable)
            (.cons (columnIs_isUniform (column .servertypeColumn) target)
              (.cons (containsServer_isUniform "sub") .nil)) fun subject => ?_)
          cases subject with
          | value => exact column .serverIdColumn
          | network => exact column .networkColumn
      | reverseHostname reversed =>
          exact .ok (.existence (.name .relationTable) (.cons (.const _)
            (.cons (columnsEqual_isUniform (.const _)
              (serverColumn_isUniform .serverIdColumn)) .nil)) fun subject => by
                cases subject <;> exact .const _)

end Location

/-! ## Filters -/

namespace Filter

variable {location : Layout → Location}

theorem compileRun_isUniform (uniform : Location.IsUniform location)
    (run : List Literal) :
    ComputesUniform (AreUniform Condition.IsUniform) fun layout =>
      compileRun (context.withLayout layout) attr (location layout) run := by
  match run with
  | [] => exact .ok .nil
  | [literal] =>
      exact (Predicate.ofLeaf_isUniform (.equals literal)).bind
          fun _ isPredicate =>
        .ok (.cons (Location.apply_isUniform uniform isPredicate) .nil)
  | first :: second :: rest =>
      exact (Predicate.ofMembership_isUniform (first :: second :: rest)).bind
          fun _ isPredicate =>
        .ok (.cons (Location.apply_isUniform uniform isPredicate) .nil)

mutual

/-- The conditions of a filter for all layouts are uniform. -/
theorem compile_isUniform (uniform : Location.IsUniform location) :
    (filter : Filter) →
    ComputesUniform Condition.IsUniform fun layout =>
      filter.compile (context.withLayout layout) attr (location layout)
  | .leaf single => by
      simp only [compile]
      exact (Predicate.ofLeaf_isUniform single).bind fun _ isPredicate =>
        .ok (Location.apply_isUniform uniform isPredicate)
  | .not inner => by
      simp only [compile]
      exact (compile_isUniform uniform inner).bind fun _ isCondition =>
        .ok isCondition.negate
  | .all [] => by
      simp only [compile]
      exact .ok (.const (emptyAll context))
  | .all (child :: rest) => by
      simp only [compile]
      exact (compileAll_isUniform uniform (child :: rest)).bind
          fun _ areConditions =>
        .ok (.join areConditions)
  | .any [] => by
      simp only [compile]
      exact .ok (.const never)
  | .any (child :: rest) => by
      simp only [compile]
      exact (compileAny_isUniform uniform [] (child :: rest)).bind
          fun _ areConditions =>
        .ok (.join areConditions)

theorem compileAll_isUniform (uniform : Location.IsUniform location) :
    (children : List Filter) →
    ComputesUniform (AreUniform Condition.IsUniform) fun layout =>
      compileAll (context.withLayout layout) attr (location layout) children
  | [] => by
      simp only [compileAll]
      exact .ok .nil
  | child :: rest => by
      simp only [compileAll]
      exact (compile_isUniform uniform child).bind fun _ isCondition =>
        (compileAll_isUniform uniform rest).bind fun _ areConditions =>
          .ok (.cons isCondition areConditions)

theorem compileAny_isUniform (uniform : Location.IsUniform location) :
    (run : List Literal) → (children : List Filter) →
    ComputesUniform (AreUniform Condition.IsUniform) fun layout =>
      compileAny (context.withLayout layout) attr (location layout) run children
  | run, [] => by
      simp only [compileAny]
      exact compileRun_isUniform uniform run
  | run, child :: rest => by
      have sameMergeable (layout : Layout) :
          child.mergeable? (context.withLayout layout) attr =
            child.mergeable? context attr := rfl
      simp only [compileAny, sameMergeable]
      cases child.mergeable? context attr with
      | some literal =>
          exact compileAny_isUniform uniform (run ++ [literal]) rest
      | none =>
          exact (compileRun_isUniform uniform run).bind fun _ before =>
            (compile_isUniform uniform child).bind fun _ isCondition =>
              (compileAny_isUniform uniform [] rest).bind fun _ areConditions =>
                .ok (before.append (.cons isCondition areConditions))

end

end Filter

/-! ## Statements -/

namespace Compiler

theorem conditionIn_isUniform (id : AttributeId) (filter : Filter) :
    ComputesUniform Condition.IsUniform fun layout =>
      conditionIn (context.withLayout layout) id filter := by
  dsimp only [conditionIn, Context.schema_withLayout]
  exact .after fun attr _ => Location.resolve_isUniform.bind fun _ isLocation =>
    Filter.compile_isUniform isLocation filter

theorem selection_isUniform :
    Condition.IsUniform fun layout =>
      selection (context.withLayout layout) := by
  dsimp only [selection, Context.servertypes_withLayout,
    Context.named_withLayout]
  have next {listed : Layout → String} (uniform : Text.IsUniform listed)
      (text : String) (field : LayoutField) : Text.IsUniform fun layout =>
        listed layout ++ text ++ ("server." ++ layout.name field) :=
    (uniform.thenText text).append (.thenName (.const _) field)
  have first := (Text.IsUniform.const "SELECT ").append
    (Location.serverColumn_isUniform .serverIdColumn)
  have listed :=
    next (next (next (next first ", " .hostnameColumn) ", " .networkColumn)
      ", " .servertypeColumn) ", " .projectColumn
  have source := (listed.thenText " FROM ").thenName .serverTable
  have opened :=
    (next source " AS server WHERE " .servertypeColumn).thenText " IN ("
  exact ((Condition.IsUniform.raw opened).append (.const _)).sql (.const ")")

theorem order_isUniform :
    Text.IsUniform fun layout => order (context.withLayout layout) := by
  have first :=
    (Text.IsUniform.const " ORDER BY server.").thenName .hostnameColumn
  have second := (first.thenText ", server.").thenName .networkColumn
  exact (second.thenText ", server.").thenName .serverIdColumn

theorem restrict_isUniform (query : Query) {statement : Layout → Condition}
    (uniform : Condition.IsUniform statement) :
    ComputesUniform Condition.IsUniform fun layout =>
      restrict (context.withLayout layout) (statement layout) query := by
  induction query generalizing statement with
  | nil => exact .ok uniform
  | cons entry rest ih =>
      obtain ⟨id, filter⟩ := entry
      exact (conditionIn_isUniform id filter).bind fun _ isCondition =>
        ih ((uniform.sql (.const " AND ")).append isCondition)

/-- The compiler with another layout. -/
def withLayout (compiler : Compiler) (layout : Layout) : Compiler :=
  { compiler with settings := { compiler.settings with layout } }

/-- Statements for all layouts with uniform bodies, or none for all of them. -/
inductive IsUniform : (Layout → Option Statement) → Prop where
  | none : IsUniform fun _ => none
  | some (dialect : Dialect) {body : Layout → Condition}
      (uniform : Condition.IsUniform body) :
      IsUniform fun layout => some ⟨dialect, body layout⟩

/-- The statements of a query for all layouts are uniform. -/
theorem assemble_isUniform (compiler : Compiler)
    (servertypes : List ServertypeId) (query : Query)
    (hostnames : HostnameIds) :
    ComputesUniform IsUniform fun layout =>
      (compiler.withLayout layout).assemble servertypes query hostnames := by
  unfold assemble
  have sameCandidates (layout : Layout) :
      (compiler.withLayout layout).candidates servertypes =
        compiler.candidates servertypes := rfl
  simp only [sameCandidates]
  refine .after fun candidates _ => ?_
  cases candidates with
  | nil => exact .ok .none
  | cons first rest =>
      let context := compiler.context (first :: rest) hostnames
      have uniform : ComputesUniform Condition.IsUniform fun layout =>
          restrict (context.withLayout layout)
              (selection (context.withLayout layout)) query :=
        restrict_isUniform query selection_isUniform
      have isOrder : Text.IsUniform fun layout =>
          order (context.withLayout layout) :=
        order_isUniform
      exact uniform.bind fun _ isBody =>
        .ok (.some context.dialect (isBody.sql isOrder))

/-- A statement is made with a stencil, with which it is made for every other
layout. -/
theorem assemble_fills_stencil {compiler : Compiler}
    {servertypes : List ServertypeId} {query : Query} {hostnames : HostnameIds}
    {statement : Statement}
    (assembled : compiler.assemble servertypes query hostnames =
      .ok (some statement)) :
    ∃ stencil : Stencil, ∀ layout, ∃ other,
      (compiler.withLayout layout).assemble servertypes query hostnames =
        .ok (some other) ∧
      other.sql = (stencil.fill layout).render statement.dialect ∧
      other.inlineSql = (stencil.fill layout).inline ∧
      other.params = (stencil.fill layout).params := by
  have returnedHere : (compiler.withLayout compiler.settings.layout).assemble
    servertypes query hostnames = .ok (some statement) := assembled
  cases assemble_isUniform compiler servertypes query hostnames with
  | fails failure failed =>
      rw [failed] at returnedHere
      cases returnedHere
  | returns statements isUniform returned =>
      rw [returned] at returnedHere
      cases isUniform with
      | none => cases returnedHere
      | @some dialect body uniform =>
          obtain ⟨stencil, fits⟩ := uniform
          obtain rfl := Option.some.inj (Except.ok.inj returnedHere)
          exact ⟨stencil,
            fun layout => ⟨⟨dialect, body layout⟩, returned layout,
              Condition.render_eq_of_symbols (fits layout) dialect,
              Condition.inline_eq_of_symbols (fits layout),
              Condition.params_eq_of_symbols (fits layout)⟩⟩

end Compiler

end AttributeQuery
