import AttributeQuery.Proofs.Query.Logic

/-!
# Columns without a value

Where the operators and functions of a database are strict, what a template
states about a column is unknown exactly when the column is null. Only the
template of the leaf that asks for a value is decided then. A predicate at a
location that is a row is always decided: such a row exists, or none does.
-/

namespace AttributeQuery

open Sql

namespace Sql

/-! ## Strict databases -/

namespace Truth

variable {first second : Truth}

theorem not_eq_unknown : first.not = .unknown ↔ first = .unknown := by
  cases first <;> decide

theorem not_eq_yes : first.not = .yes ↔ first = .no := by
  cases first <;> decide

theorem not_eq_no : first.not = .no ↔ first = .yes := by
  cases first <;> decide

theorem ofBool_ne_unknown (value : Bool) : ofBool value ≠ .unknown := by
  cases value <;> decide

/-- A conjunction is unknown when its first part is, if the second one is not
false then. -/
theorem and_eq_unknown {isNull : Prop} (isFirst : first = .unknown ↔ isNull)
    (isSecond : second = .unknown → isNull) (notNo : isNull → second ≠ .no) :
    first.and second = .unknown ↔ isNull := by
  cases first with
  | unknown =>
      have holds : isNull := isFirst.mp rfl
      have notSecond := notNo holds
      cases second with
      | no => exact absurd rfl notSecond
      | unknown | yes => simp [Truth.and, holds]
  | no => simpa using isFirst
  | yes =>
      rw [yes_and]
      constructor
      · exact isSecond
      · intro holds
        exact absurd (isFirst.mpr holds) (by decide)

end Truth

namespace Database

variable {Value : Type}

/-- The operators and functions of a database have a result for all values, and
none for null. -/
structure IsStrict (database : Database Value) : Prop where
  compare : ∀ symbol left right, database.compare symbol left right ≠ .unknown
  like : ∀ escape subject pattern,
    database.like escape subject pattern ≠ .unknown
  isTrue : ∀ value, database.isTrue value ≠ .unknown
  cast : ∀ type value, database.cast type value = none ↔ value = none
  call : ∀ function arguments, database.call function arguments = none ↔
    none ∈ arguments

/-- A database of texts and numbers that are compared for equality; all else
that is asked about values is false, and functions of values are zero. -/
def definite (rows : String → List (Row PlainValue)) : Database PlainValue where
  rows := rows
  text := .text
  number := .number
  cast _ value := value
  call _ arguments := if none ∈ arguments then none else some (.number 0)
  compare symbol left right := .ofBool (symbol = "=" ∧ left = right)
  like _ _ _ := .no
  isTrue value := .ofBool (value = .number 1)

theorem isStrict_definite (rows : String → List (Row PlainValue)) :
    (definite rows).IsStrict where
  compare _ _ _ := Truth.ofBool_ne_unknown _
  like _ _ _ := by simp [definite]
  isTrue _ := Truth.ofBool_ne_unknown _
  cast _ _ := Iff.rfl
  call _ _ := by simp [definite]

theorem strictly_eq_unknown {relation : Value → Value → Truth}
    (decided : ∀ left right, relation left right ≠ .unknown)
    {left right : Option Value} :
    strictly relation left right = .unknown ↔ left = none ∨ right = none := by
  cases left with
  | none => simp [strictly]
  | some left =>
      cases right with
      | none => simp [strictly]
      | some right => simp [strictly, decided]

end Database

section Operands

variable {Value : Type} (database : Database Value) (scopes : Scopes Value)

@[simp] theorem Operand.value_column (qualifier name : String) :
    (column qualifier name).value database scopes =
      scopes.read qualifier name := rfl

@[simp] theorem Operand.value_bound (value : SqlValue) :
    (bound value).value database scopes = some (database.bound value) := rfl

@[simp] theorem Operand.value_number (value : Int) :
    (number value).value database scopes = some (database.number value) := rfl

end Operands

section Strict

variable {Value : Type} {database : Database Value} (strict : database.IsStrict)
  (scopes : Scopes Value)

include strict

theorem Operand.value_cast_eq_none (operand : Operand) (type : String) :
    (cast operand type).value database scopes = none ↔
      operand.value database scopes = none :=
  strict.cast type _

/-- A function has no value when one of its arguments is null. -/
theorem Operand.value_call_eq_none (function : String)
    (arguments : List Operand) :
    (call function arguments).value database scopes = none ↔
      ∃ argument ∈ arguments, argument.value database scopes = none := by
  rw [value, strict.call]
  induction arguments with
  | nil => simp [values]
  | cons argument rest ih => simp [values, ih, eq_comm]

/-- A bound value is not null, with or without a cast. -/
theorem Operand.value_boundAs_ne_none (type : Option String)
    (value : SqlValue) :
    (boundAs type value).value database scopes ≠ none := by
  cases type with
  | none => simp [boundAs]
  | some type => simp [boundAs, value_cast_eq_none strict]

namespace Expression

theorem truth_compare_eq_unknown (symbol : String) (left right : Operand) :
    (compare symbol left right).truth database scopes = .unknown ↔
      left.value database scopes = none ∨ right.value database scopes = none :=
  Database.strictly_eq_unknown (strict.compare symbol)

theorem truth_like_eq_unknown (subject pattern : Operand) (escape : String) :
    (like subject pattern escape).truth database scopes = .unknown ↔
      subject.value database scopes = none ∨
        pattern.value database scopes = none :=
  Database.strictly_eq_unknown (strict.like escape)

theorem truth_isTrue_eq_unknown (operand : Operand) :
    (isTrue operand).truth database scopes = .unknown ↔
      operand.value database scopes = none := by
  rw [truth]
  cases operand.value database scopes with
  | none => simp
  | some value => simp [strict.isTrue]

end Expression

end Strict

end Sql

/-! ## Templates -/

section Templates

variable {Value : Type} {database : Database Value}

/-- What a template states about a column of the outer server is unknown exactly
where the column is null. -/
def Template.IsStrict (database : Database Value) (template : Template) :
    Prop :=
  ∀ column name, IsColumn column "server" name → ∀ row : Row Value, ∃ truth,
    (template.apply column).HasTruth database [("server", row)] truth ∧
      (truth = .unknown ↔ row name = none)

/-- A template that states one part is strict when the part is. -/
theorem Template.IsStrict.single {template : Template}
    {part : Operand → Expression}
    (states : template.States fun column => [part column])
    (isUnknown : ∀ (row : Row Value) name,
      (part (.column "server" name)).truth database [("server", row)] =
        .unknown ↔ row name = none) :
    template.IsStrict database := by
  intro column name isColumn row
  refine ⟨_, ⟨_, states column "server" name isColumn, rfl⟩, ?_⟩
  simpa using isUnknown row name

/-- A template that states two parts is strict when the first one is, and the
second one is false for no null. -/
theorem Template.IsStrict.pair {template : Template}
    {first second : Operand → Expression}
    (states : template.States fun column => [first column, second column])
    (isUnknown : ∀ (row : Row Value) name,
      (first (.column "server" name)).truth database [("server", row)] =
        .unknown ↔ row name = none)
    (isNull : ∀ (row : Row Value) name,
      (second (.column "server" name)).truth database [("server", row)] =
        .unknown → row name = none)
    (notNo : ∀ (row : Row Value) name, row name = none →
      (second (.column "server" name)).truth database [("server", row)] ≠ .no) :
    template.IsStrict database := by
  intro column name isColumn row
  refine ⟨_, ⟨_, states column "server" name isColumn, rfl⟩, ?_⟩
  simpa using Truth.and_eq_unknown (isUnknown row name) (isNull row name)
    (notNo row name)

namespace Predicate

variable (strict : database.IsStrict) {castText type : Option String}

include strict

theorem comparedBy_isStrict (symbol : String)
    (spelled : Sql.Spells (" " ++ symbol ++ " ").toList
      [.operator symbol] .free)
    (apart : startsApart (" " ++ symbol ++ " ").toList = true)
    (isCast : IsCast castText type) (value : SqlValue) :
    (comparedBy symbol value castText).template.IsStrict database := by
  apply Template.IsStrict.single
    (comparedBy_states symbol spelled apart isCast value)
  intro row name
  simp [Expression.truth_compare_eq_unknown strict,
    Operand.value_boundAs_ne_none strict]

theorem column_isStrict : (Template.mk [.column]).IsStrict database := by
  apply Template.IsStrict.single column_states
  intro row name
  simp [Expression.truth_isTrue_eq_unknown strict]

theorem like_isStrict (pattern : String) :
    (Dialect.like pattern).IsStrict database := by
  apply Template.IsStrict.single (like_states pattern)
  intro row name
  simp [Expression.truth_like_eq_unknown strict]

theorem foundIn_isStrict {function : String}
    (isFunction : function = "strpos" ∨ function = "instr") (text : String) :
    (Template.mk [.sql (function ++ "("), .param (.text text), .sql ", ",
      .column, .sql ") > 0"]).IsStrict database := by
  apply Template.IsStrict.single (foundIn_states isFunction text)
  intro row name
  simp [Expression.truth_compare_eq_unknown strict,
    Operand.value_call_eq_none strict]

theorem contains_sqlite_isStrict (needle : String) :
    (Dialect.sqlite.contains needle).IsStrict database := by
  apply Template.IsStrict.single (contains_sqlite_states needle)
  intro row name
  simp [Expression.truth_compare_eq_unknown strict,
    Operand.value_call_eq_none strict]

theorem startsWith_sqlite_isStrict (start : String) :
    (Dialect.sqlite.startsWith start).IsStrict database := by
  apply Template.IsStrict.single (startsWith_sqlite_states start)
  intro row name
  simp [Expression.truth_compare_eq_unknown strict,
    Operand.value_call_eq_none strict]

theorem textPattern_isStrict (pattern : String) :
    (Template.mk [.column, .sql "::text ~ ", .param (.text pattern)]).IsStrict
      database := by
  apply Template.IsStrict.single (textPattern_states pattern)
  intro row name
  simp [Expression.truth_compare_eq_unknown strict,
    Operand.value_cast_eq_none strict]

theorem network_startsWith_isStrict (isCast : IsCast castText type)
    (network : SqlValue) :
    (Template.mk ([TemplatePiece.column, TemplatePiece.sql " >>= "]
      ++ networkPieces network castText
      ++ [TemplatePiece.sql " AND host(", TemplatePiece.column,
        TemplatePiece.sql ") = host("] ++ networkPieces network castText ++
        [TemplatePiece.sql ")"])).IsStrict database := by
  apply Template.IsStrict.pair (network_startsWith_states isCast network)
  · intro row name
    simp [Expression.truth_compare_eq_unknown strict,
      Operand.value_boundAs_ne_none strict]
  · intro row name isUnknown
    simpa [Expression.truth_compare_eq_unknown strict,
      Operand.value_call_eq_none strict,
      Operand.value_boundAs_ne_none strict] using isUnknown
  · intro row name isNull isNo
    have isUnknown :
        (Expression.compare "=" (.call "host" [.column "server" name])
          (.call "host" [.boundAs type network])).truth database
        [("server", row)] = .unknown := by
      simp [Expression.truth_compare_eq_unknown strict,
        Operand.value_call_eq_none strict, isNull]
    rw [isUnknown] at isNo
    cases isNo

theorem network_containedOnlyBy_isStrict (isCast : IsCast castText type)
    (network : SqlValue) {table networkColumn : String} (isTable : IsWord table)
    (isNetwork : IsWord networkColumn) :
    (Template.mk ([TemplatePiece.column, TemplatePiece.sql " << "]
      ++ networkPieces network castText
      ++ [TemplatePiece.sql (" AND NOT EXISTS (SELECT 1 FROM " ++ table ++
            " AS supernet WHERE "),
          TemplatePiece.column,
          TemplatePiece.sql
            (" << supernet." ++ networkColumn ++ " AND supernet." ++
              networkColumn ++ " << ")]
      ++ networkPieces network castText ++ [TemplatePiece.sql ")"])).IsStrict
    database := by
  apply Template.IsStrict.pair
    (network_containedOnlyBy_states isCast network isTable isNetwork)
  · intro row name
    simp [Expression.truth_compare_eq_unknown strict,
      Operand.value_boundAs_ne_none strict]
  · intro row name isUnknown
    exact absurd (Truth.not_eq_unknown.mp isUnknown) (Truth.ofBool_ne_unknown _)
  · intro row name isNull isNo
    rw [Expression.truth, Truth.not_eq_no, Expression.truth_hasRow] at isNo
    obtain ⟨between, -, holds⟩ := isNo
    have isBelow := (Expression.allHold_cons.mp holds).1
    have isUnknown := (Expression.truth_compare_eq_unknown strict
      [("supernet", between), ("server", row)] "<<" (.column "server" name)
      (.column "supernet" networkColumn)).mpr (.inl isNull)
    rw [isUnknown] at isBelow
    cases isBelow

/-! ## Leaves -/

variable {context : Context} {attr : Attribute}

theorem IsPattern.isStrict (isScalar : attr.isLink = false) {text : String}
    {predicate : Predicate}
    (isPattern : IsPattern context attr text predicate) :
    predicate.template.IsStrict database := by
  cases isPattern with
  | hostname isLink => simp [isScalar] at isLink
  | value => exact textPattern_isStrict strict text

theorem networkTemplate_isStrict (valid : context.layout.check = .ok ())
    {relation : Containment} {literal : Literal} {template : Template}
    (built : networkTemplate context attr relation literal = .ok template) :
    template.IsStrict database := by
  obtain ⟨_, -, encoded⟩ := bind_eq_ok.mp built
  obtain ⟨network, -, chosen⟩ := bind_eq_ok.mp encoded
  have isCast := Dialect.isCast_cast context.dialect .inet
  cases relation with
  | startsWith =>
      rw [← pure_eq_ok.mp chosen]
      exact network_startsWith_isStrict strict isCast network
  | contains =>
      rw [← pure_eq_ok.mp chosen]
      exact comparedBy_isStrict strict ">>=" (.of_run (by decide)) rfl
        isCast network
  | containedBy =>
      rw [← pure_eq_ok.mp chosen]
      exact comparedBy_isStrict strict "<<=" (.of_run (by decide)) rfl
        isCast network
  | containedOnlyBy =>
      rw [← pure_eq_ok.mp chosen]
      exact network_containedOnlyBy_isStrict strict isCast network
        (Layout.isWord_name valid _) (Layout.isWord_name valid _)
  | overlaps =>
      rw [← pure_eq_ok.mp chosen]
      exact comparedBy_isStrict strict "&&" (.of_run (by decide)) rfl
        isCast network

theorem textTemplate_isStrict {dialect : Dialect} {relation : Containment}
    {text : String} {template : Template}
    (found : textTemplate? dialect relation text = some template) :
    template.IsStrict database := by
  cases relation with
  | startsWith =>
      rw [← Option.some.inj found]
      cases dialect with
      | postgres => exact like_isStrict strict _
      | sqlite => exact startsWith_sqlite_isStrict strict text
  | contains =>
      rw [← Option.some.inj found]
      cases dialect with
      | postgres => exact like_isStrict strict _
      | sqlite => exact contains_sqlite_isStrict strict text
  | containedBy =>
      rw [← Option.some.inj found]
      cases dialect with
      | postgres => exact foundIn_isStrict strict (.inl rfl) text
      | sqlite => exact foundIn_isStrict strict (.inr rfl) text
  | containedOnlyBy | overlaps => simp [textTemplate?] at found

theorem IsContainment.isStrict (valid : context.layout.check = .ok ())
    {relation : Containment} {literal : Literal} {predicate : Predicate}
    (isContainment : IsContainment context attr relation literal predicate) :
    predicate.template.IsStrict database := by
  cases isContainment with
  | network _ found | supernet _ found =>
      exact networkTemplate_isStrict strict valid found
  | text _ _ _ found => exact textTemplate_isStrict strict found

/-- On the column of a special attribute, only the leaf that asks for a value is
decided for null. -/
theorem ofLeaf_isStrict (valid : context.layout.check = .ok ())
    (isSpecial : attr.isSpecial = true) (isScalar : attr.isLink = false)
    {leaf : Leaf} {predicate : Predicate}
    (built : ofLeaf context attr leaf = .ok predicate)
    (notEmpty : leaf ≠ .empty) : predicate.template.IsStrict database := by
  have isCast := isCast_operandCast context attr
  cases ofLeaf_eq_ok.mp built with
  | boolean =>
      rw [isSpecial]
      exact column_isStrict strict
  | equality =>
      exact comparedBy_isStrict strict "=" (.of_run (by decide)) rfl isCast _
  | @comparison relation =>
      cases relation with
      | greaterThan | lessThan | greaterThanOrEquals | lessThanOrEquals =>
          exact comparedBy_isStrict strict _ (.of_run (by decide)) rfl isCast _
  | pattern _ isPattern => exact isPattern.isStrict strict isScalar
  | presence => exact absurd rfl notEmpty
  | containment _ isContainment => exact isContainment.isStrict strict valid

end Predicate

end Templates

/-! ## Locations -/

/-- The truth of a leaf on a column of the outer server that is null. -/
def Leaf.nullTruth : Leaf → Truth
  | .empty => .yes
  | _ => .unknown

/-- Unless it is a column, what a predicate says at a location is that a table
has some row. -/
theorem Location.IsReadable.located_states {location : Location}
    (readable : location.IsReadable)
    (noColumn : ∀ text, location ≠ .column text) {attr : Attribute}
    {predicate : Predicate} (fits : predicate.template.IsReadable ∨
      predicate.template.isEmpty = true ∧ attr.isSpecial = false) :
    ∃ table parts,
      (location.located predicate).States
        [.hasRow table "sub" (.allOf parts)] := by
  cases readable with
  | column => exact absurd rfl (noColumn _)
  | existence isTable isSome stated isColumn =>
      cases fits with
      | inl isReadable =>
          obtain ⟨nonempty, parts, states⟩ := isReadable
          obtain ⟨qualifier, column, isColumn⟩ := isColumn predicate.subject
          exact ⟨_, _,
            located_existence_states isTable isSome stated isColumn
              nonempty states⟩
      | inr isEmpty =>
          exact ⟨_, _, located_existence_empty isTable isSome stated isEmpty.1⟩

namespace Filter

variable {Value : Type} {database : Database Value} {scopes : Scopes Value}
variable {context : Context} {attr : Attribute} {location : Location}

/-- What is located is negated as a whole. -/
theorem apply_hasTruth {predicate : Predicate} {truth : Truth}
    (holds : (location.located predicate).HasTruth database scopes truth) :
    (location.apply predicate).HasTruth database scopes
      (if predicate.isNegated then truth.not else truth) := by
  unfold Location.apply
  split
  · exact holds.negate
  · exact holds

/-- Leaves that are decided one by one have decided truths. -/
theorem exists_leavesHave_decided
    (decided : ∀ leaf predicate,
      Predicate.ofLeaf context attr leaf = .ok predicate →
      ∃ truth,
      truth ≠ .unknown ∧
        (location.apply predicate).HasTruth database scopes truth) :
    ∃ leafTruth, LeavesHave database scopes context attr location leafTruth ∧
      ∀ leaf, leafTruth leaf ≠ .unknown := by
  have each (leaf : Leaf) : ∃ truth, truth ≠ Truth.unknown ∧
      ∀ predicate, Predicate.ofLeaf context attr leaf = .ok predicate →
        (location.apply predicate).HasTruth database scopes truth := by
    cases built : Predicate.ofLeaf context attr leaf with
    | error => exact ⟨.no, by decide, by simp⟩
    | ok predicate =>
        obtain ⟨truth, isDecided, holds⟩ := decided leaf predicate built
        refine ⟨truth, isDecided, ?_⟩
        intro other isOther
        rw [← Except.ok.inj isOther]
        exact holds
  choose leafTruth isDecided holds using each
  exact ⟨leafTruth, holds, isDecided⟩

section Column

variable {text name : String} (isColumn : IsColumn text "server" name)
  {row : Row Value}

include isColumn

/-- That there is no value is true for null, and false for values. -/
theorem apply_empty_hasTruth {predicate : Predicate}
    (built : Predicate.ofLeaf context attr .empty = .ok predicate) :
    ((Location.column text).apply predicate).HasTruth database [("server", row)]
      (.ofBool (row name).isNone) := by
  cases Predicate.ofLeaf_eq_ok.mp built with
  | presence notBoolean =>
      have located : ((Location.column text).located
          { template := ⟨[.column, .sql " IS NOT NULL"]⟩,
              isNegated := true }).HasTruth database
          [("server", row)] (.ofBool (row name).isSome) :=
        ⟨_, Predicate.present_states text "server" name
          isColumn, by simp [Expression.truth]⟩
      have applied := apply_hasTruth located
      cases value : row name with
      | none => simpa [value, Truth.ofBool, Truth.not] using applied
      | some => simpa [value, Truth.ofBool, Truth.not] using applied

variable (strict : database.IsStrict) (valid : context.layout.check = .ok ())
  (isSpecial : attr.isSpecial = true) (isScalar : attr.isLink = false)

include strict valid isSpecial isScalar

/-- All leaves but the one that asks for a value are unknown exactly where the
column is null. -/
theorem apply_ofLeaf_hasTruth {leaf : Leaf} {predicate : Predicate}
    (built : Predicate.ofLeaf context attr leaf = .ok predicate)
    (notEmpty : leaf ≠ .empty) :
    ∃ truth,
      ((Location.column text).apply predicate).HasTruth database
        [("server", row)] truth ∧
      (truth = .unknown ↔ row name = none) := by
  obtain ⟨truth, holds, isUnknown⟩ :=
    Predicate.ofLeaf_isStrict strict valid isSpecial isScalar built notEmpty
      text name isColumn row
  refine ⟨_, apply_hasTruth holds, ?_⟩
  split
  · rw [Truth.not_eq_unknown]
    exact isUnknown
  · exact isUnknown

theorem leavesHave_nullTruth (isNull : row name = none) :
    LeavesHave database [("server", row)] context attr
      (.column text) Leaf.nullTruth := by
  intro leaf predicate built
  by_cases isEmpty : leaf = .empty
  · rw [isEmpty] at built
    have holds : ((Location.column text).apply predicate).HasTruth database
      [("server", row)] (.ofBool (row name).isNone) :=
      apply_empty_hasTruth isColumn built
    rw [isNull] at holds
    rw [isEmpty]
    exact holds
  · obtain ⟨truth, holds, isUnknown⟩ :=
      apply_ofLeaf_hasTruth isColumn strict valid isSpecial
        isScalar built isEmpty
    rw [isUnknown.mpr isNull] at holds
    cases leaf with
    | empty => exact absurd rfl isEmpty
    | equals | comparison | regexp | containment => exact holds

theorem exists_leavesHave_of_value (hasValue : row name ≠ none) :
    ∃ leafTruth,
      LeavesHave database [("server", row)] context attr
        (.column text) leafTruth ∧
      ∀ leaf, leafTruth leaf ≠ .unknown := by
  apply exists_leavesHave_decided
  intro leaf predicate built
  by_cases isEmpty : leaf = .empty
  · rw [isEmpty] at built
    exact ⟨_, Truth.ofBool_ne_unknown _, apply_empty_hasTruth isColumn built⟩
  · obtain ⟨truth, holds, isUnknown⟩ :=
      apply_ofLeaf_hasTruth isColumn strict valid isSpecial
        isScalar built isEmpty
    exact ⟨truth, fun unknown => hasValue (isUnknown.mp unknown), holds⟩

end Column

/-- Unless it is a column, a location has a row that meets conditions, or has
none. -/
theorem exists_leavesHave_of_existence (readable : location.IsReadable)
    (valid : context.layout.check = .ok ())
    (noColumn : ∀ text, location ≠ .column text) :
    ∃ leafTruth, LeavesHave database scopes context attr location leafTruth ∧
      ∀ leaf, leafTruth leaf ≠ .unknown := by
  apply exists_leavesHave_decided
  intro leaf predicate built
  obtain ⟨table, parts, states⟩ :=
    readable.located_states noColumn (Predicate.ofLeaf_isReadable valid built)
  refine ⟨_, ?_, apply_hasTruth ⟨_, states, rfl⟩⟩
  have isDecided := Truth.ofBool_ne_unknown
  split
  · simp [Truth.not_eq_unknown, Expression.truth, isDecided]
  · simp [Expression.truth, isDecided]

end Filter

end AttributeQuery
