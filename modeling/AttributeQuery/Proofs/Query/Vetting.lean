import AttributeQuery.Proofs.Query.Combination
import AttributeQuery.Proofs.Query.Encoding
import AttributeQuery.Proofs.Query.Independence
import AttributeQuery.Proofs.Sql.Vetting

/-!
# Vetted statements

Conditions and statements are made from fixed texts, names of tables and
columns, identifiers, numbers and checked texts. When a vetting admits these, it
admits everything that is compiled from them. Only the columns of special
attributes are left: they are not checked anywhere, so whether they are admitted
is asked of each attribute.
-/

namespace AttributeQuery

/-- A vetting admits what a context provides: names of tables and columns,
numbers, texts that can be inlined, requested servertypes, and the identifiers
of attributes and of what their types refer to. -/
structure Context.IsVetted (context : Context) (vetting : Vetting) : Prop where
  named : ∀ field, vetting.IsText (context.named field)
  integer : ∀ value, vetting.IsValue (.integer value)
  inlinable : ∀ {text : String}, Text.Inlinable.fault? text.toList = none →
    vetting.IsValue (.text text)
  servertype : ∀ id ∈ context.servertypes, vetting.IsValue (.text id)
  attr : ∀ attr ∈ context.schema.attributes, vetting.IsValue (.text attr.id)
  target : ∀ attr ∈ context.schema.attributes, ∀ target,
    attr.type.target? = some target →
    vetting.IsValue (.text target)
  reversed : ∀ attr ∈ context.schema.attributes, ∀ reversed,
    attr.type.reversed? = some reversed → vetting.IsValue (.text reversed)

variable {vetting : Vetting} {context : Context}

/-! ## Fixed texts -/

theorem Text.Numeral.all_isHarmless_ofNat (value : Nat) :
    (ofNat value).toList.all Text.isHarmless = true := by
  have harmlessDigit : ∀ digit < 10,
    Text.isHarmless digit.digitChar = true := by decide
  refine List.all_eq_true.mpr fun char member => ?_
  obtain ⟨digit, isDigit, rfl⟩ :=
    exists_digitChar_of_mem_toDigits (show 1 < 10 by decide)
      (by simpa [ofNat] using member)
  exact harmlessDigit digit isDigit

theorem Dialect.isText_placeholder (dialect : Dialect) (count : Nat) :
    vetting.IsText (dialect.placeholder count) := by
  cases dialect with
  | postgres =>
      exact vetting.append (vetting.harmless (by decide))
        (vetting.harmless (Text.Numeral.all_isHarmless_ofNat count))
  | sqlite => exact (vetting.harmless (by decide) : vetting.IsText "?")

theorem Dialect.isText_cast (dialect : Dialect) (domain : ValueDomain)
    {castText : String} (isCast : dialect.cast domain = some castText) :
    vetting.IsText castText := by
  have harmless : castText.toList.all Text.isHarmless = true := by
    cases dialect <;> cases domain <;>
      simp only [cast, reduceCtorEq, Option.some.injEq] at isCast
    all_goals
      subst isCast
      decide
  exact vetting.harmless harmless

theorem Location.isText_linkName (depth : Nat) :
    vetting.IsText (linkName depth) :=
  vetting.append (vetting.harmless (by decide))
    (vetting.harmless (Text.Numeral.all_isHarmless_ofNat (depth + 1)))

/-! ## Predicates -/

namespace Dialect

variable {text : String}

theorem like_passes (isValue : vetting.IsValue (.text text)) :
    (like text).Passes vetting := by
  simpa [Template.Passes, like, Vetting.AdmitsTemplate] using
    ⟨vetting.harmless (by decide), isValue, vetting.escape⟩

variable (vetted : context.IsVetted vetting)
  (inlinable : Text.Inlinable.fault? text.toList = none) (dialect : Dialect)

include vetted inlinable

theorem contains_passes : (dialect.contains text).Passes vetting := by
  cases dialect with
  | postgres =>
      exact like_passes
        (vetted.inlinable
          (Text.LikePattern.fault?_wildcard_escape_wildcard inlinable))
  | sqlite =>
      simpa [Template.Passes, contains, Vetting.AdmitsTemplate] using
        ⟨vetting.harmless (by decide), vetting.harmless (by decide),
          vetted.inlinable inlinable, vetting.harmless (by decide)⟩

theorem startsWith_passes : (dialect.startsWith text).Passes vetting := by
  cases dialect with
  | postgres =>
      exact like_passes
        (vetted.inlinable (Text.LikePattern.fault?_escape_wildcard inlinable))
  | sqlite =>
      simpa [Template.Passes, startsWith, Vetting.AdmitsTemplate] using
        ⟨vetting.harmless (by decide), vetting.harmless (by decide),
          vetted.inlinable inlinable,
          vetting.harmless (by decide), vetted.inlinable inlinable⟩

theorem containedBy_passes : (dialect.containedBy text).Passes vetting := by
  cases dialect with
  | postgres | sqlite =>
      simpa [Template.Passes, containedBy, Vetting.AdmitsTemplate] using
        ⟨vetting.harmless (by decide), vetted.inlinable inlinable,
          vetting.harmless (by decide), vetting.harmless (by decide)⟩

end Dialect

namespace Predicate

variable (vetted : context.IsVetted vetting) {attr : Attribute}

theorem comparedBy_passes {symbol : String} {value : SqlValue}
    {castText : Option String} (isText : vetting.IsText (" " ++ symbol ++ " "))
    (isValue : vetting.IsValue value)
    (isCast : ∀ text, castText = some text → vetting.IsText text) :
    (comparedBy symbol value castText).template.Passes vetting := by
  refine List.forall_mem_append.mpr ⟨?_, Template.admits_castPieces isCast⟩
  simpa [Vetting.AdmitsTemplate] using ⟨isText, isValue⟩

include vetted

theorem isValue_encodeValue {domain : ValueDomain} {literal : Literal}
    {value : SqlValue}
    (encoded : encodeValue attr.id domain literal = .ok value) :
    vetting.IsValue value := by
  cases value with
  | text text =>
      exact vetted.inlinable ((encodeValue_inlinable encoded).1 text rfl)
  | integer number => exact vetted.integer number

theorem operand_passes {literal : Literal} {value : SqlValue}
    {castText : Option String}
    (bound : operand context attr literal = .ok (value, castText)) :
    vetting.IsValue value ∧ ∀ text, castText = some text →
    vetting.IsText text := by
  obtain ⟨isOperand, rfl⟩ := operand_eq_ok.mp bound
  constructor
  · cases isOperand with
    | scalar _ encoded => exact isValue_encodeValue vetted encoded
    | hostname => exact vetted.integer _
  · unfold operandCast
    split
    next => exact fun text => Dialect.isText_cast _ _
    next => simp

theorem operands_passes {literals : List Literal}
    {castText last : Option String}
    (isCast : ∀ text, castText = some text → vetting.IsText text)
    {values : List SqlValue}
    (bound : operands context attr castText literals = .ok (values, last)) :
    (∀ value ∈ values, vetting.IsValue value) ∧
      ∀ text, last = some text → vetting.IsText text := by
  induction literals generalizing castText values with
  | nil =>
      obtain ⟨rfl, rfl⟩ := Prod.mk.inj (Except.ok.inj bound)
      exact ⟨by simp, isCast⟩
  | cons literal rest ih =>
      obtain ⟨⟨value, first⟩, boundFirst, later⟩ := bind_eq_ok.mp bound
      obtain ⟨⟨others, final⟩, boundRest, returned⟩ := bind_eq_ok.mp later
      obtain ⟨rfl, rfl⟩ := Prod.mk.inj (pure_eq_ok.mp returned)
      obtain ⟨isValue, isFirst⟩ := operand_passes vetted boundFirst
      obtain ⟨areValues, isLast⟩ := ih isFirst boundRest
      exact ⟨List.forall_mem_cons.mpr ⟨isValue, areValues⟩, isLast⟩

theorem ofMembership_passes {literals : List Literal} {predicate : Predicate}
    (built : ofMembership context attr literals = .ok predicate) :
    predicate.template.Passes vetting := by
  obtain ⟨⟨values, castText⟩, bound, returned⟩ := bind_eq_ok.mp built
  obtain ⟨areValues, isCast⟩ := operands_passes vetted (by simp) bound
  rw [← pure_eq_ok.mp returned]
  have list :=
    Template.admits_conditionPieces
      (Condition.Passes.paramList isCast areValues)
  refine List.forall_mem_append.mpr ⟨List.forall_mem_append.mpr ⟨?_, list⟩, ?_⟩
  · simpa [Vetting.AdmitsTemplate] using vetting.harmless (by decide)
  · simpa [Vetting.AdmitsTemplate] using vetting.harmless (by decide)

theorem IsPattern.passes {text : String} {predicate : Predicate}
    (isPattern : IsPattern context attr text predicate) :
    predicate.template.Passes vetting := by
  cases isPattern with
  | hostname _ checked =>
      have isValue := vetted.inlinable (requireInlinable_eq_ok.mp checked)
      have select :=
        vetting.append
          (vetting.harmless (by decide) : vetting.IsText " IN (SELECT ")
          (vetted.named .serverIdColumn)
      have source := vetting.append (vetting.append select
        (vetting.harmless (by decide) : vetting.IsText " FROM "))
        (vetted.named .serverTable)
      have filtered := vetting.append (vetting.append source
        (vetting.harmless (by decide) : vetting.IsText " WHERE "))
        (vetted.named .hostnameColumn)
      have space : vetting.IsText " " := vetting.harmless (by decide)
      have matched := vetting.append (vetting.append filtered space)
        (vetting.harmless (by decide) : vetting.IsText "~")
      simpa [Template.Passes, Vetting.AdmitsTemplate] using
        ⟨vetting.append matched space, isValue, vetting.harmless (by decide)⟩
  | value _ checked =>
      have isValue := vetted.inlinable (requireInlinable_eq_ok.mp checked)
      simpa [Template.Passes, Vetting.AdmitsTemplate] using
        ⟨vetting.harmless (by decide), isValue⟩

theorem networkTemplate_passes {relation : Containment} {literal : Literal}
    {template : Template}
    (built : networkTemplate context attr relation literal = .ok template) :
    template.Passes vetting := by
  obtain ⟨-, built⟩ := check_bind_eq_ok.mp built
  obtain ⟨value, encoded, built⟩ := bind_eq_ok.mp built
  have network : ∀ piece ∈
      TemplatePiece.param value :: Template.castPieces
        (context.dialect.cast .inet),
      vetting.AdmitsTemplate piece :=
    List.forall_mem_cons.mpr ⟨isValue_encodeValue vetted encoded,
      Template.admits_castPieces fun text => Dialect.isText_cast _ .inet⟩
  dsimp only at built
  split at built <;> obtain rfl := pure_eq_ok.mp built
  · refine List.forall_mem_append.mpr ⟨List.forall_mem_append.mpr
      ⟨List.forall_mem_append.mpr
        ⟨List.forall_mem_append.mpr ⟨?_, network⟩, ?_⟩, network⟩, ?_⟩
    · simpa [Vetting.AdmitsTemplate] using vetting.harmless (by decide)
    · simpa [Vetting.AdmitsTemplate] using
        ⟨vetting.harmless (by decide), vetting.harmless (by decide)⟩
    · simpa [Vetting.AdmitsTemplate] using vetting.harmless (by decide)
  · refine List.forall_mem_append.mpr ⟨?_, network⟩
    simpa [Vetting.AdmitsTemplate] using vetting.harmless (by decide)
  · refine List.forall_mem_append.mpr ⟨?_, network⟩
    simpa [Vetting.AdmitsTemplate] using vetting.harmless (by decide)
  · have column := vetted.named .networkColumn
    have source := vetting.append (vetting.append
      (vetting.harmless (by decide) : vetting.IsText
        " AND NOT EXISTS (SELECT 1 FROM ")
      (vetted.named .serverTable)) (vetting.harmless (by decide) :
        vetting.IsText " AS supernet WHERE ")
    have between :=
      vetting.append
        (vetting.append
          (vetting.append
            (vetting.append
              (vetting.harmless (by decide) : vetting.IsText " << supernet.")
              column) (vetting.harmless (by decide) : vetting.IsText
                " AND supernet.")) column)
        (vetting.harmless (by decide) : vetting.IsText " << ")
    refine List.forall_mem_append.mpr ⟨List.forall_mem_append.mpr
      ⟨List.forall_mem_append.mpr
        ⟨List.forall_mem_append.mpr ⟨?_, network⟩, ?_⟩, network⟩, ?_⟩
    · simpa [Vetting.AdmitsTemplate] using vetting.harmless (by decide)
    · simpa [Vetting.AdmitsTemplate] using ⟨source, between⟩
    · simpa [Vetting.AdmitsTemplate] using vetting.harmless (by decide)
  · refine List.forall_mem_append.mpr ⟨?_, network⟩
    simpa [Vetting.AdmitsTemplate] using vetting.harmless (by decide)

theorem textTemplate_passes {dialect : Dialect} {relation : Containment}
    {text : String} (inlinable : Text.Inlinable.fault? text.toList = none)
    {template : Template}
    (found : textTemplate? dialect relation text = some template) :
    template.Passes vetting := by
  cases relation with
  | startsWith =>
      obtain rfl := Option.some.inj found
      exact Dialect.startsWith_passes vetted inlinable dialect
  | contains =>
      obtain rfl := Option.some.inj found
      exact Dialect.contains_passes vetted inlinable dialect
  | containedBy =>
      obtain rfl := Option.some.inj found
      exact Dialect.containedBy_passes vetted inlinable dialect
  | containedOnlyBy | overlaps => simp [textTemplate?] at found

theorem IsContainment.passes {relation : Containment} {literal : Literal}
    {predicate : Predicate}
    (isContainment : IsContainment context attr relation literal predicate) :
    predicate.template.Passes vetting := by
  cases isContainment with
  | network _ found | supernet _ found =>
      exact networkTemplate_passes vetted found
  | text _ _ checked found =>
      exact textTemplate_passes vetted (requireInlinable_eq_ok.mp checked) found

/-- The predicate of a leaf is vetted. -/
theorem ofLeaf_passes {leaf : Leaf} {predicate : Predicate}
    (built : ofLeaf context attr leaf = .ok predicate) :
    predicate.template.Passes vetting := by
  cases ofLeaf_eq_ok.mp built with
  | boolean =>
      cases attr.isSpecial <;> simp [Template.Passes, Vetting.AdmitsTemplate]
  | equality _ bound =>
      obtain ⟨isValue, isCast⟩ := operand_passes vetted bound
      exact comparedBy_passes (vetting.harmless (by decide)) isValue isCast
  | @comparison relation _ _ _ _ bound =>
      obtain ⟨isValue, isCast⟩ := operand_passes vetted bound
      refine comparedBy_passes (vetting.harmless ?_) isValue isCast
      cases relation <;> decide
  | pattern _ isPattern => exact isPattern.passes vetted
  | presence => simpa [Template.Passes, Vetting.AdmitsTemplate] using
      vetting.harmless (by decide)
  | containment _ isContainment => exact isContainment.passes vetted

end Predicate

/-! ## Locations -/

namespace Location

/-- All texts and conditions of a location are admitted. -/
def Passes (vetting : Vetting) : Location → Prop
  | .column name => vetting.IsText name
  | .existence table conditions valueColumn networkColumn =>
      vetting.IsText table ∧
        (∀ condition ∈ conditions, condition.Passes vetting) ∧
        vetting.IsText valueColumn ∧
        ∀ column, networkColumn = some column → vetting.IsText column

/-- The conditions that a relation states about vetted columns and servertypes
are vetted. -/
def Relation.Passes (vetting : Vetting) (relation : Relation) : Prop :=
  ∀ {id : AttributeId} {reached : String} {servertypes : List ServertypeId}
    {condition : Condition}, vetting.IsText reached →
    (∀ servertype ∈ servertypes, vetting.IsValue (.text servertype)) →
    relation id reached servertypes = .ok condition → condition.Passes vetting

theorem existsRow_passes {table rowName : String} {conditions : List Condition}
    (isTable : vetting.IsText table) (isRow : vetting.IsText rowName)
    (pass : ∀ condition ∈ conditions, condition.Passes vetting) :
    (existsRow table rowName conditions).Passes vetting := by
  have source := vetting.append
    (vetting.harmless (by decide) : vetting.IsText "EXISTS (SELECT 1 FROM ")
    isTable
  have named := vetting.append
    (vetting.append source
      (vetting.harmless (by decide) : vetting.IsText " AS ")) isRow
  have opened :=
    vetting.append named
      (vetting.harmless (by decide) : vetting.IsText " WHERE ")
  exact ((Condition.Passes.raw opened).append (.conjunction pass)).sql
    (vetting.harmless (by decide))

theorem columnIs_passes {column text : String} (isText : vetting.IsText column)
    (isValue : vetting.IsValue (.text text)) :
    (columnIs column text).Passes vetting :=
  (Condition.Passes.raw
    (vetting.append isText
      (vetting.harmless (by decide) : vetting.IsText " = "))).param isValue

theorem columnsEqual_passes {column other : String}
    (isText : vetting.IsText column) (isOther : vetting.IsText other) :
    (columnsEqual column other).Passes vetting :=
  Condition.Passes.raw (vetting.append
    (vetting.append isText
      (vetting.harmless (by decide) : vetting.IsText " = ")) isOther)

variable (vetted : context.IsVetted vetting) {attr : Attribute}
  {relation : Relation}

include vetted

/-- A column of a row. -/
theorem isText_column {rowName : String}
    (isRow : vetting.IsText (rowName ++ ".")) (field : LayoutField) :
    vetting.IsText (rowName ++ "." ++ context.named field) :=
  vetting.append isRow (vetted.named field)

theorem isText_serverColumn (field : LayoutField) :
    vetting.IsText (serverColumn (context.named field)) :=
  isText_column vetted
    (vetting.harmless (by decide) : vetting.IsText ("server" ++ ".")) field

theorem containsServer_passes {rowName : String}
    (isRow : vetting.IsText rowName) :
    (containsServer context rowName).Passes vetting := by
  have column := isText_column vetted
    (vetting.append isRow (vetting.harmless (by decide) : vetting.IsText "."))
    .networkColumn
  exact Condition.Passes.raw (vetting.append (vetting.append column
    (vetting.harmless (by decide) : vetting.IsText " >>= server."))
    (vetted.named .networkColumn))

theorem servertypeGuard_passes {servertypes : List ServertypeId}
    (areValues : ∀ servertype ∈ servertypes,
      vetting.IsValue (.text servertype)) :
    (servertypeGuard context servertypes).Passes vetting := by
  have column := vetting.append (isText_serverColumn vetted .servertypeColumn)
    (vetting.harmless (by decide) : vetting.IsText " IN (")
  refine ((Condition.Passes.raw column).append (.paramList (by simp) ?_)).sql
    (vetting.harmless (by decide))
  exact List.forall_mem_map.mpr areValues

omit vetted in
theorem IsStrategy.areValues {holder : String} {id : AttributeId}
    {servertypes : List ServertypeId} {via : Option AttributeId}
    {strategy : Strategy}
    (isStrategy : IsStrategy context relation holder
      (bindingsOf context id servertypes) via strategy)
    (areValues : ∀ servertype ∈ servertypes,
      vetting.IsValue (.text servertype)) :
    ∀ servertype ∈ strategy.servertypes,
    vetting.IsValue (.text servertype) := by
  intro servertype member
  rw [isStrategy.servertypes] at member
  obtain ⟨binding, isBinding, -, rfl⟩ := mem_boundVia.mp member
  exact areValues _ (by simpa using (List.mem_filter.mp isBinding).2)

theorem IsStrategy.passes (passes : relation.Passes vetting) {holder : String}
    (isText : vetting.IsText holder) {id : AttributeId}
    {servertypes : List ServertypeId} {via : Option AttributeId}
    {strategy : Strategy}
    (isStrategy : IsStrategy context relation holder
      (bindingsOf context id servertypes) via strategy)
    (areValues : ∀ servertype ∈ servertypes,
      vetting.IsValue (.text servertype)) :
    strategy.condition.Passes vetting := by
  have computed := isStrategy.condition
  cases via with
  | none =>
      rw [computed]
      exact columnsEqual_passes
        (isText_serverColumn vetted .serverIdColumn) isText
  | some link => exact passes isText (isStrategy.areValues areValues) computed

theorem anyGuarded_passes {strategies : List Strategy}
    (pass : ∀ strategy ∈ strategies, strategy.condition.Passes vetting ∧
      ∀ servertype ∈ strategy.servertypes, vetting.IsValue (.text servertype)) :
    (anyGuarded context strategies).Passes vetting := by
  have each : ∀ strategy ∈ strategies,
      (guarded context strategy).Passes vetting := by
    intro strategy member
    obtain ⟨passes, areValues⟩ := pass strategy member
    refine .join (vetting.harmless (by decide)) ?_
    simpa using ⟨servertypeGuard_passes vetted areValues, passes⟩
  unfold anyGuarded
  split
  next strategy => exact each strategy List.mem_cons_self
  next =>
    exact .join (vetting.harmless (by decide)) (List.forall_mem_map.mpr each)

theorem holderBy_passes (passes : relation.Passes vetting) :
    Relation.Passes vetting (holderBy context relation) := by
  intro id holder servertypes condition isText areValues held
  obtain ⟨strategies, areStrategies, -, chosen⟩ := holderBy_eq_ok held
  have pass : ∀ strategy ∈ strategies, strategy.condition.Passes vetting ∧
      ∀ servertype ∈ strategy.servertypes,
      vetting.IsValue (.text servertype) := by
    intro strategy member
    obtain ⟨via, isStrategy⟩ := areStrategies.each strategy member
    exact ⟨isStrategy.passes vetted passes isText areValues,
      isStrategy.areValues areValues⟩
  rcases chosen with ⟨strategy, rfl, rfl, -⟩ | rfl
  · exact (pass strategy List.mem_cons_self).1
  · exact anyGuarded_passes vetted pass

theorem linkedBy_passes (depth : Nat) (passes : relation.Passes vetting) :
    Relation.Passes vetting (linkedBy context depth relation) := by
  intro via reached servertypes condition isReached areValues linked
  obtain ⟨attr, found, isLinked⟩ := linkedBy_eq_ok linked
  have found := Schema.requireAttribute_eq_ok.mp found
  have declared := Schema.mem_of_findAttribute? found
  obtain rfl : attr.id = via := by simpa using List.find?_some found
  have isRow : vetting.IsText (linkName depth) := isText_linkName depth
  have column {name : String} (isName : vetting.IsText name) :
      vetting.IsText (linkName depth ++ name) := vetting.append isRow isName
  have attributeColumn :=
    column (vetting.harmless (by decide) : vetting.IsText ".attribute_id")
  have valueColumn :=
    column (vetting.harmless (by decide) : vetting.IsText ".value")
  have ownerColumn :=
    column (vetting.harmless (by decide) : vetting.IsText ".server_id")
  have field :=
    isText_column vetted
      (column (vetting.harmless (by decide) : vetting.IsText "."))
  cases type : attr.type with
  | scalar domain =>
      rw [type] at isLinked
      cases isLinked
  | hostname target =>
      rw [type] at isLinked
      obtain ⟨held⟩ := isLinked
      refine existsRow_passes (vetted.named _) isRow ?_
      simpa using ⟨columnIs_passes attributeColumn (vetted.attr attr declared),
        passes ownerColumn areValues held,
        columnsEqual_passes valueColumn isReached⟩
  | supernet target =>
      rw [type] at isLinked
      obtain ⟨⟩ := isLinked
      have isTarget :=
        vetted.target attr declared target
          (by simp [type, AttributeType.target?])
      refine existsRow_passes (vetted.named _) isRow ?_
      simpa using ⟨columnIs_passes (field .servertypeColumn) isTarget,
        containsServer_passes vetted isRow,
        columnsEqual_passes (field .serverIdColumn) isReached⟩
  | reverseHostname reversed =>
      rw [type] at isLinked
      obtain ⟨⟩ := isLinked
      have isReversed := vetted.reversed attr declared reversed
        (by simp [type, AttributeType.reversed?])
      refine existsRow_passes (vetted.named _) isRow ?_
      simpa using ⟨columnIs_passes attributeColumn isReversed,
        columnsEqual_passes valueColumn
          (isText_serverColumn vetted .serverIdColumn),
        columnsEqual_passes ownerColumn isReached⟩

/-- The condition of a holder is vetted, however many links lead to it. -/
theorem holderWithin_passes (remaining depth : Nat) :
    Relation.Passes vetting (holderWithin context remaining depth) := by
  induction remaining generalizing depth with
  | zero => exact holderBy_passes vetted fun _ _ exceeded => by simp at exceeded
  | succ remaining ih =>
      exact holderBy_passes vetted
        (linkedBy_passes vetted depth (ih (depth + 1)))

/-- The column that holds an attribute, where there is one, is admitted. -/
def HasVettedColumn (vetting : Vetting) (attr : Attribute) : Prop :=
  ∀ special, attr.special = some special →
    vetting.IsText (serverColumn special.column)

/-- The location of an attribute is vetted. -/
theorem resolve_passes (declared : attr ∈ context.schema.attributes)
    (special : HasVettedColumn vetting attr) {location : Location}
    (resolved : resolve context attr = .ok location) :
    location.Passes vetting := by
  cases resolve_eq_ok resolved with
  | column isSpecial => exact special _ isSpecial
  | @supernet target _ type =>
      have field := isText_column vetted
        (vetting.harmless (by decide) : vetting.IsText ("sub" ++ "."))
      have isTarget :=
        vetted.target attr declared target
          (by simp [type, AttributeType.target?])
      refine ⟨vetted.named _, ?_, field .serverIdColumn, ?_⟩
      · simpa using ⟨columnIs_passes (field .servertypeColumn) isTarget,
          containsServer_passes vetted (vetting.harmless (by decide))⟩
      · simpa using field .networkColumn
  | @reverseHostname reversed _ type =>
      have isReversed := vetted.reversed attr declared reversed
        (by simp [type, AttributeType.reversed?])
      refine ⟨vetted.named _, ?_, vetting.harmless (by decide), by simp⟩
      simpa using ⟨columnIs_passes (vetting.harmless (by decide)) isReversed,
        columnsEqual_passes (vetting.harmless (by decide))
          (isText_serverColumn vetted .serverIdColumn)⟩
  | stored _ _ held =>
      have passes := holderWithin_passes vetted _ _
        (vetting.harmless (by decide) : vetting.IsText "sub.server_id")
        vetted.servertype held
      refine ⟨vetted.named _, ?_, vetting.harmless (by decide), by simp⟩
      simpa using ⟨passes,
        columnIs_passes (vetting.harmless (by decide))
          (vetted.attr attr declared)⟩

omit vetted in
/-- A vetted predicate at a vetted location. -/
theorem Passes.apply {location : Location} (passes : location.Passes vetting)
    {predicate : Predicate} (states : predicate.template.Passes vetting) :
    (location.apply predicate).Passes vetting := by
  have located : (location.located predicate).Passes vetting := by
    cases location with
    | column name => exact states.apply passes
    | existence table conditions valueColumn networkColumn =>
        obtain ⟨isTable, pass, isValue, isNetwork⟩ := passes
        have isText : vetting.IsText
            (subjectColumn valueColumn networkColumn predicate.subject) := by
          cases predicate.subject with
          | value => exact isValue
          | network =>
              cases networkColumn with
              | none => exact isValue
              | some column => exact isNetwork column rfl
        refine existsRow_passes isTable (vetting.harmless (by decide))
          (List.forall_mem_append.mpr ⟨pass, ?_⟩)
        cases predicate.template.isEmpty with
        | true => simp
        | false => simpa using states.apply isText
  unfold Location.apply
  split
  · exact located.negate
  · exact located

end Location

/-! ## Filters -/

namespace Filter

variable {attr : Attribute} {location : Location}

theorem isKept_passes : Condition.IsKept (Condition.Passes vetting) where
  always := .raw (vetting.harmless (by decide))
  never := .raw (vetting.harmless (by decide))
  negate := .negate
  join := by
    rintro operator conditions (rfl | rfl) - each
    · exact .join (vetting.harmless (by decide)) each
    · exact .join (vetting.harmless (by decide)) each

/-- Predicates are vetted when the location is that they are about. -/
theorem leavesHold_passes (vetted : context.IsVetted vetting)
    {leaves : List Leaf} (passes : leaves ≠ [] → location.Passes vetting) :
    LeavesHold context attr location (Condition.Passes vetting) leaves where
  leaf isLeaf built :=
    (passes (List.ne_nil_of_mem isLeaf)).apply
      (Predicate.ofLeaf_passes vetted built)
  membership areLeaves built :=
    (passes (List.ne_nil_of_mem (areLeaves _ List.mem_cons_self))).apply
      (Predicate.ofMembership_passes vetted built)

/-- The condition of a filter is vetted when the location is that its leaves are
about. -/
theorem compile_passes (vetted : context.IsVetted vetting) (filter : Filter)
    {condition : Condition}
    (passes : filter.leaves ≠ [] → location.Passes vetting)
    (compiled : filter.compile context attr location = .ok condition) :
    condition.Passes vetting :=
  compile_holds isKept_passes (leavesHold_passes vetted passes) filter
    (List.Subset.refl _) compiled

end Filter

/-! ## Statements -/

namespace Compiler

section InContext

variable (vetted : context.IsVetted vetting)

include vetted

theorem conditionIn_passes {id : AttributeId} {filter : Filter}
    {condition : Condition}
    (special : filter.leaves ≠ [] → ∀ attr,
      context.schema.findAttribute? id = some attr →
      Location.HasVettedColumn vetting attr)
    (compiled : conditionIn context id filter = .ok condition) :
    condition.Passes vetting := by
  obtain ⟨attr, location, found, resolved, compiled⟩ :=
    conditionIn_eq_ok.mp compiled
  exact Filter.compile_passes vetted filter
    (fun isSome =>
      Location.resolve_passes vetted (Schema.mem_of_findAttribute? found)
        (special isSome attr found) resolved) compiled

theorem selection_passes : (selection context).Passes vetting := by
  have column := Location.isText_serverColumn vetted
  have next {listed : String} (isText : vetting.IsText listed)
      (field : LayoutField) :
      vetting.IsText
        (listed ++ ", " ++ Location.serverColumn (context.named field)) :=
    vetting.append (vetting.append isText (vetting.harmless (by decide)))
      (column field)
  have first :=
    vetting.append (vetting.harmless (by decide) : vetting.IsText "SELECT ")
      (column .serverIdColumn)
  have listed :=
    next (next (next (next first .hostnameColumn) .networkColumn)
      .servertypeColumn) .projectColumn
  have source := vetting.append
    (vetting.append listed
      (vetting.harmless (by decide) : vetting.IsText " FROM "))
    (vetted.named .serverTable)
  have filtered := vetting.append
    (vetting.append source
      (vetting.harmless (by decide) : vetting.IsText " AS server WHERE "))
    (column .servertypeColumn)
  have opened :=
    vetting.append filtered
      (vetting.harmless (by decide) : vetting.IsText " IN (")
  exact ((Condition.Passes.raw opened).append
    (.paramList (by simp) (List.forall_mem_map.mpr vetted.servertype))).sql
    (vetting.harmless (by decide))

theorem isText_order : vetting.IsText (order context) := by
  have next {before : String} (isText : vetting.IsText before)
      (field : LayoutField) :
      vetting.IsText (before ++ context.named field) :=
    vetting.append isText (vetted.named field)
  have first :=
    next (vetting.harmless (by decide) : vetting.IsText " ORDER BY server.")
      .hostnameColumn
  have second := next (vetting.append first
    (vetting.harmless (by decide) : vetting.IsText ", server.")) .networkColumn
  exact next (vetting.append second
    (vetting.harmless (by decide) : vetting.IsText ", server.")) .serverIdColumn

theorem restrict_passes {query : Query}
    (special : ∀ attr, query.Concerns context.schema attr →
      Location.HasVettedColumn vetting attr) {statement body : Condition}
    (passes : statement.Passes vetting)
    (restricted : restrict context statement query = .ok body) :
    body.Passes vetting := by
  induction query generalizing statement with
  | nil =>
      rw [← Except.ok.inj restricted]
      exact passes
  | cons entry rest ih =>
      obtain ⟨condition, compiled, later⟩ := bind_eq_ok.mp restricted
      have first : condition.Passes vetting := conditionIn_passes vetted
        (fun isSome attr found =>
          special attr ⟨entry, List.mem_cons_self, isSome, found⟩) compiled
      refine ih (fun attr concerns => special attr ?_)
        ((passes.sql (vetting.harmless (by decide))).append first) later
      obtain ⟨other, member, isSome, found⟩ := concerns
      exact ⟨other, List.mem_cons_of_mem _ member, isSome, found⟩

end InContext

variable {compiler : Compiler} {declarations : List Declaration}

theorem mem_servertypes_of_candidates
    {servertypes candidates : List ServertypeId}
    (declared : compiler.candidates servertypes = .ok candidates)
    {id : ServertypeId} (member : id ∈ candidates) :
    id ∈ compiler.schema.servertypes := by
  unfold Compiler.candidates at declared
  dsimp only at declared
  split at declared
  next => simp at declared
  next allDeclared =>
    obtain rfl := Except.ok.inj declared
    have isDeclared := List.find?_eq_none.mp allDeclared id member
    simpa [Schema.hasServertype] using isDeclared

/-- A vetting admits what the context of requested servertypes provides, if it
admits the names of the layout, numbers, texts that can be inlined, and the
identifiers of declared servertypes and attributes. -/
theorem isVetted_context
    (built : Schema.build declarations = .ok compiler.schema)
    {servertypes candidates : List ServertypeId}
    (declared : compiler.candidates servertypes = .ok candidates)
    (hostnames : HostnameIds)
    (named : ∀ field, vetting.IsText (compiler.settings.layout.name field))
    (integer : ∀ value, vetting.IsValue (.integer value))
    (inlinable : ∀ {text : String}, Text.Inlinable.fault? text.toList = none →
      vetting.IsValue (.text text))
    (servertype : ∀ id ∈ compiler.schema.servertypes,
      vetting.IsValue (.text id))
    (attr : ∀ attr ∈ compiler.schema.attributes,
      vetting.IsValue (.text attr.id)) :
    (compiler.context candidates hostnames).IsVetted vetting where
  named := named
  integer := integer
  inlinable := inlinable
  servertype id member :=
    servertype id (mem_servertypes_of_candidates declared member)
  attr := attr
  target attr member target isTarget :=
    servertype target (Schema.build_targets built member isTarget)
  reversed reverse member reversed isReversed := by
    obtain ⟨other, isDeclared, rfl⟩ :=
      Schema.build_reversed built member isReversed
    exact attr other isDeclared

end Compiler

end AttributeQuery
