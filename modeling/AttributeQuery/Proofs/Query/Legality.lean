import AttributeQuery.Proofs.Filter.Exchange
import AttributeQuery.Proofs.Query.Encoding
import AttributeQuery.Query.Predicate

/-!
# Leaves that an attribute has

Which leaves have a predicate on an attribute depends on the type of the
attribute, the operator, the operand, the dialect and the known hostnames. The
rules are stated here as a table, and building a predicate decides that table: a
leaf in it has a predicate, and any other is refused with an error that says
what is wrong with it.
-/

namespace AttributeQuery

/-! ## The table -/

/-- A text that can stand between quotes: it holds no single quote, and the
backslashes at its end escape each other. -/
def Text.IsInlinable (text : String) : Prop :=
  '\'' ∉ text.toList ∧ Text.Inlinable.trailingBackslashes text.toList % 2 = 0

/-- A literal that denotes a network: one written as such, or a text that can be
read as a network or as an address. -/
inductive Literal.DenotesNetwork : Literal → Prop
  | network (network : Network) : DenotesNetwork (.inet network)
  | text (text : String) (network : Network) (inlinable : Text.IsInlinable text)
      (read : Network.read? text = some network) : DenotesNetwork (.string text)

/-- A literal that the values of an attribute type can be compared with. -/
inductive Literal.IsOperand (context : Context) : AttributeType → Literal → Prop
  | integer (value : Int64) :
      IsOperand context (.scalar .number) (.integer value)
  | float (value : Decimal.Double) (finite : value.isFinite = true) :
      IsOperand context (.scalar .number) (.float value)
  | network (literal : Literal) (denotes : literal.DenotesNetwork) :
      IsOperand context (.scalar .inet) literal
  | text (domain : ValueDomain) (text : String)
      (textual : domain ∈ [ValueDomain.string, .macaddr, .date, .datetime])
      (inlinable : Text.IsInlinable text) : IsOperand context (.scalar domain)
      (.string text)
  | hostname (type : AttributeType) (hostname : String) (id : Int64)
      (isLink : type.isLink = true) (inlinable : Text.IsInlinable hostname)
      (known : context.hostnames.get? hostname = some id) :
      IsOperand context type (.string hostname)

/-- A leaf that an attribute has. Booleans are compared with truth values only.
The values of every other attribute may be missing, are compared with its
operands, and have an order unless they are links; where the database has
patterns and networks, they match patterns and, if they have networks, contain
others. Parts of texts are found in both dialects. -/
inductive Leaf.IsLegal (context : Context) (attr : Attribute) : Leaf → Prop
  | truth (value : Bool) (boolean : attr.type = .scalar .boolean) :
      IsLegal context attr (.equals (.boolean value))
  | empty (notBoolean : attr.type ≠ .scalar .boolean) :
      IsLegal context attr .empty
  | equality (literal : Literal) (notBoolean : attr.type ≠ .scalar .boolean)
      (operand : literal.IsOperand context attr.type) : IsLegal context attr
      (.equals literal)
  | comparison (relation : Comparison) (literal : Literal)
      (notBoolean : attr.type ≠ .scalar .boolean)
      (notLink : attr.type.isLink = false)
      (operand : literal.IsOperand context attr.type) :
      IsLegal context attr (.comparison relation literal)
  | pattern (pattern : String) (notBoolean : attr.type ≠ .scalar .boolean)
      (postgres : context.dialect = .postgres)
      (inlinable : Text.IsInlinable pattern) :
      IsLegal context attr (.regexp pattern)
  | networks (relation : Containment) (literal : Literal)
      (network : attr.type = .scalar .inet ∨ ∃ target,
        attr.type = .supernet target)
      (postgres : context.dialect = .postgres)
      (denotes : literal.DenotesNetwork) :
      IsLegal context attr (.containment relation literal)
  | texts (relation : Containment) (text : String)
      (string : attr.type = .scalar .string)
      (ofTexts : relation ∈ [Containment.startsWith, .contains, .containedBy])
      (inlinable : Text.IsInlinable text) :
      IsLegal context attr (.containment relation (.string text))

/-- An error that says what is wrong with an operand. -/
inductive Literal.IsRefusal (context : Context) (id : AttributeId) :
    Literal → CompileError → Prop
  | type (literal : Literal) (expected : Expectation) :
      IsRefusal context id literal (.typeMismatch id expected literal.type)
  | text (text : String) (fault : Text.Inlinable.Fault)
      (faulty : Text.Inlinable.fault? text.toList = some fault) :
      IsRefusal context id (.string text) (.unencodableValue (.text text fault))
  | float (value : Decimal.Double) (notFinite : value.isFinite = false) :
      IsRefusal context id (.float value) (.unencodableValue (.notFinite value))
  | hostname (hostname : String)
      (unknown : context.hostnames.get? hostname = none) :
      IsRefusal context id (.string hostname) (.unknownHostname hostname)

/-- An error that says what is wrong with a leaf on an attribute. -/
inductive Leaf.IsRefusal (context : Context) (attr : Attribute) :
    Leaf → CompileError → Prop
  | operator (leaf : Leaf) :
      IsRefusal context attr leaf
        (.unsupportedOperator attr.id leaf.operator attr.type)
  | order (leaf : Leaf) (isLink : attr.isLink = true) :
      IsRefusal context attr leaf (.unorderableType attr.id)
  | operand (leaf : Leaf) (literal : Literal) (failure : CompileError)
      (compared : leaf.literal? = some literal)
      (refused : literal.IsRefusal context attr.id failure) :
      IsRefusal context attr leaf failure
  | pattern (pattern : String) (fault : Text.Inlinable.Fault)
      (faulty : Text.Inlinable.fault? pattern.toList = some fault) :
      IsRefusal context attr (.regexp pattern)
        (.unencodableValue (.text pattern fault))
  | dialect (leaf : Leaf) (feature : Feature)
      (lacks : context.dialect.supports feature = false) :
      IsRefusal context attr leaf
        (.unsupportedByDialect context.dialect feature)

/-! ## Deciding a rule -/

variable {α β : Type}

/-- A computation decides a rule when it succeeds only where the rule is met,
and otherwise fails with one of some errors. -/
def Decides (rule : Prop) (IsRefusal : CompileError → Prop) :
    Except CompileError α → Prop
  | .ok _ => rule
  | .error failure => ¬ rule ∧ IsRefusal failure

namespace Decides

variable {rule other : Prop} {IsRefusal IsOther : CompileError → Prop}
  {computed : Except CompileError α}

theorem ok_iff (decides : Decides rule IsRefusal computed) :
    (∃ value, computed = .ok value) ↔ rule := by
  cases computed with
  | ok value => exact ⟨fun _ => decides, fun _ => ⟨value, rfl⟩⟩
  | error failure => simp [decides.1]

theorem refusal (decides : Decides rule IsRefusal computed) :
    rule ∨ ∃ failure, computed = .error failure ∧ IsRefusal failure := by
  cases computed with
  | ok value => exact .inl decides
  | error failure => exact .inr ⟨failure, rfl, decides.2⟩

/-- The same rule may be written differently, and more errors may be allowed. -/
theorem imp (decides : Decides rule IsRefusal computed) (same : rule ↔ other)
    (allowed : ∀ failure, IsRefusal failure → IsOther failure) :
    Decides other IsOther computed := by
  cases computed with
  | ok value => exact same.mp decides
  | error failure => exact ⟨mt same.mpr decides.1, allowed failure decides.2⟩

/-- A step that decides one rule, before one that decides another. -/
theorem bind {next : α → Except CompileError β}
    (first : Decides rule IsRefusal computed)
    (second : ∀ value, Decides other IsRefusal (next value)) :
    Decides (rule ∧ other) IsRefusal (computed >>= next) := by
  cases computed with
  | ok value =>
      exact (second value).imp (by simp [show rule from first])
        fun _ allowed => allowed
  | error failure => exact ⟨fun both => first.1 both.1, first.2⟩

/-- A step that always succeeds makes no difference to the rule. -/
theorem returning {next : α → Except CompileError β}
    (decides : Decides rule IsRefusal computed)
    (returns : ∀ value, ∃ result, next value = .ok result) :
    Decides rule IsRefusal (computed >>= next) := by
  cases computed with
  | ok value =>
      obtain ⟨result, returned⟩ := returns value
      exact (congrArg (Decides rule IsRefusal) returned).mpr decides
  | error failure => exact decides

end Decides

/-! ## Texts and operands -/

theorem requireInlinable_decides (text : String) :
    Decides (Text.IsInlinable text)
      (fun failure => ∃ fault, Text.Inlinable.fault? text.toList = some fault ∧
        failure = .unencodableValue (.text text fault))
      (requireInlinable text) := by
  unfold requireInlinable
  split
  next absent => exact Text.Inlinable.fault?_eq_none_iff.mp absent
  next fault found =>
    refine ⟨fun inlinable => ?_, fault, found, rfl⟩
    rw [Text.Inlinable.fault?_eq_none_iff.mpr inlinable] at found
    cases found

theorem Dialect.require_decides (dialect : Dialect) (feature : Feature) :
    Decides (dialect = .postgres)
      (fun failure => dialect.supports feature = false ∧
        failure = .unsupportedByDialect dialect feature)
      (dialect.require feature) := by
  cases dialect with
  | postgres => exact rfl
  | sqlite => exact ⟨nofun, rfl, rfl⟩

namespace Literal

variable {context : Context} {id : AttributeId}

theorem denotesNetwork_string_iff {text : String} :
    (string text).DenotesNetwork ↔
      Text.IsInlinable text ∧ ∃ network, Network.read? text = some network :=
  ⟨fun | .text _ network inlinable read => ⟨inlinable, network, read⟩,
    fun ⟨inlinable, network, read⟩ => .text text network inlinable read⟩

theorem isOperand_inet_iff {literal : Literal} :
    literal.IsOperand context (.scalar .inet) ↔ literal.DenotesNetwork := by
  constructor
  · intro operand
    cases operand with
    | network _ denotes => exact denotes
    | text _ _ textual _ => simp at textual
    | hostname _ _ _ isLink _ _ => cases isLink
  · exact .network literal

theorem isOperand_textual_iff {domain : ValueDomain} {text : String}
    (textual : domain ∈ [ValueDomain.string, .macaddr, .date, .datetime]) :
    (string text).IsOperand context (.scalar domain) ↔
      Text.IsInlinable text := by
  constructor
  · intro operand
    cases operand with
    | network _ _ => simp at textual
    | text _ _ _ inlinable => exact inlinable
    | hostname _ _ _ isLink _ _ => cases isLink
  · exact .text domain text textual

theorem isOperand_link_iff {type : AttributeType} {hostname : String}
    (isLink : type.isLink = true) :
    (string hostname).IsOperand context type ↔
      Text.IsInlinable hostname ∧ ∃ serverId,
      context.hostnames.get? hostname = some serverId := by
  constructor
  · intro operand
    cases operand with
    | network _ _ => cases isLink
    | text _ _ _ _ => cases isLink
    | hostname _ _ serverId _ inlinable known =>
        exact ⟨inlinable, serverId, known⟩
  · exact fun ⟨inlinable, serverId, known⟩ =>
      .hostname type hostname serverId isLink inlinable known

/-- A check of a text, before one of what the text says. -/
theorem text_decides {rule : Prop} {text : String}
    {next : Unit → Except CompileError β}
    (second : Decides rule ((string text).IsRefusal context id) (next ())) :
    Decides (Text.IsInlinable text ∧ rule) ((string text).IsRefusal context id)
      (requireInlinable text >>= next) :=
  ((requireInlinable_decides text).imp Iff.rfl
    fun _ ⟨fault, faulty, isFailure⟩ =>
      isFailure ▸ .text text fault faulty).bind fun _ => second

end Literal

variable {context : Context}

/-- Encoding a literal decides whether it is an operand. -/
theorem encodeValue_decides (id : AttributeId) {domain : ValueDomain}
    (notBoolean : domain ≠ .boolean) (literal : Literal) :
    Decides (literal.IsOperand context (.scalar domain))
      (literal.IsRefusal context id) (encodeValue id domain literal) := by
  have textDecides {text : String} {textual : ValueDomain}
      (isTextual : textual ∈ [ValueDomain.string, .macaddr, .date, .datetime]) :
      Decides ((Literal.string text).IsOperand context (.scalar textual))
        ((Literal.string text).IsRefusal context id)
        (do requireInlinable text; return SqlValue.text text) :=
    (Literal.text_decides
      (show Decides True _ (pure (SqlValue.text text)) from trivial)).imp
      (by simp [Literal.isOperand_textual_iff isTextual])
      fun _ allowed => allowed
  unfold encodeValue
  dsimp only
  split
  next => exact absurd rfl notBoolean
  next value => exact .integer value
  next value =>
    split
    next finite => exact .float value finite
    next infinite =>
      refine ⟨fun operand => ?_, .float value (by simpa using infinite)⟩
      cases operand with
      | float _ finite => exact infinite finite
  next network => exact .network _ (.network network)
  next text =>
    rw [Literal.isOperand_inet_iff, Literal.denotesNetwork_string_iff]
    refine Literal.text_decides ?_
    split
    next network read => exact ⟨network, read⟩
    next unread => exact ⟨by simp [unread], .type _ _⟩
  next => exact textDecides (by simp)
  next => exact textDecides (by simp)
  next => exact textDecides (by simp)
  next => exact textDecides (by simp)
  next notBooleans notIntegers notFloats notNetworks notNetworkTexts notStrings
      notMacs notDates notTimes =>
    refine ⟨fun operand => ?_, .type _ _⟩
    cases operand with
    | integer value => exact notIntegers value rfl rfl
    | float value _ => exact notFloats value rfl rfl
    | network _ denotes =>
        cases denotes with
        | network network => exact notNetworks network rfl rfl
        | text text _ _ _ => exact notNetworkTexts text rfl rfl
    | text _ text textual _ =>
        simp only [List.mem_cons, List.not_mem_nil, or_false] at textual
        rcases textual with rfl | rfl | rfl | rfl
        · exact notStrings text rfl rfl
        · exact notMacs text rfl rfl
        · exact notDates text rfl rfl
        · exact notTimes text rfl rfl
    | hostname _ _ _ isLink _ _ => cases isLink

namespace Predicate

variable {attr : Attribute}

/-- Finding the operand of a comparison decides whether there is one. -/
theorem operand_decides (notBoolean : attr.type ≠ .scalar .boolean)
    (literal : Literal) :
    Decides (literal.IsOperand context attr.type)
      (literal.IsRefusal context attr.id) (operand context attr literal) := by
  unfold operand
  split
  next domain isScalar =>
    rw [isScalar] at notBoolean ⊢
    exact (encodeValue_decides attr.id
      (fun isBoolean => notBoolean (by rw [isBoolean])) _).returning
      fun _ => ⟨_, rfl⟩
  next hostname notScalar =>
    have isLink : attr.type.isLink = true := by
      cases isType : attr.type with
      | scalar domain => exact absurd isType (notScalar domain)
      | _ => rfl
    rw [Literal.isOperand_link_iff isLink]
    refine Literal.text_decides ?_
    split
    next serverId known => exact ⟨serverId, known⟩
    next unknown => exact ⟨by simp [unknown], .hostname hostname unknown⟩
  next notText notScalar =>
    refine ⟨fun isOperand => ?_, .type _ _⟩
    generalize attr.type = type at isOperand notScalar
    cases isOperand with
    | integer => exact notScalar _ rfl
    | float => exact notScalar _ rfl
    | network => exact notScalar _ rfl
    | text => exact notScalar _ rfl
    | hostname _ hostname => exact notText hostname rfl

/-! ## Leaves -/

theorem ofBoolean_decides (boolean : attr.type = .scalar .boolean)
    (leaf : Leaf) :
    Decides (leaf.IsLegal context attr) (leaf.IsRefusal context attr)
      (ofBoolean attr leaf) := by
  unfold ofBoolean
  split
  next value => exact .truth value boolean
  next literal notBoolean =>
    refine ⟨fun legal => ?_, .operand _ literal _ rfl (.type literal _)⟩
    cases legal with
    | truth value _ => exact notBoolean value rfl
    | equality _ otherType _ => exact otherType boolean
  next notEquality =>
    refine ⟨fun legal => ?_, .operator leaf⟩
    cases legal with
    | truth value _ => exact notEquality _ rfl
    | empty otherType => exact otherType boolean
    | equality literal _ _ => exact notEquality literal rfl
    | comparison _ _ otherType _ _ => exact otherType boolean
    | pattern _ otherType _ _ => exact otherType boolean
    | networks _ _ network _ _ => simp [boolean] at network
    | texts _ _ string _ _ => simp [boolean] at string

theorem ofEquality_decides (notBoolean : attr.type ≠ .scalar .boolean)
    (literal : Literal) :
    Decides ((Leaf.equals literal).IsLegal context attr)
      ((Leaf.equals literal).IsRefusal context attr)
      (ofEquality context attr literal) := by
  refine ((operand_decides notBoolean literal).returning fun _ => ⟨_, rfl⟩).imp
    ⟨.equality literal notBoolean, ?_⟩ fun failure =>
    .operand _ literal failure rfl
  intro legal
  cases legal with
  | truth _ boolean => exact absurd boolean notBoolean
  | equality _ _ isOperand => exact isOperand

theorem ofComparison_decides (notBoolean : attr.type ≠ .scalar .boolean)
    (relation : Comparison) (literal : Literal) :
    Decides ((Leaf.comparison relation literal).IsLegal context attr)
      ((Leaf.comparison relation literal).IsRefusal context attr)
      (ofComparison context attr relation literal) := by
  unfold ofComparison
  split
  next isLink =>
    refine ⟨fun legal => ?_, .order _ isLink⟩
    cases legal with
    | comparison _ _ _ notLink _ => simp [Attribute.isLink, notLink] at isLink
  next notLink =>
    have isScalar : attr.type.isLink = false := by
      simpa [Attribute.isLink] using notLink
    refine ((operand_decides notBoolean literal).returning fun _ =>
      ⟨_, rfl⟩).imp ⟨.comparison relation literal notBoolean isScalar, ?_⟩
        fun failure => .operand _ literal failure rfl
    intro legal
    cases legal with
    | comparison _ _ _ _ isOperand => exact isOperand

theorem ofPattern_decides (notBoolean : attr.type ≠ .scalar .boolean)
    (pattern : String) :
    Decides ((Leaf.regexp pattern).IsLegal context attr)
      ((Leaf.regexp pattern).IsRefusal context attr)
      (ofPattern context attr pattern) := by
  have checked : Decides (Text.IsInlinable pattern)
      ((Leaf.regexp pattern).IsRefusal context attr)
      (requireInlinable pattern) :=
    (requireInlinable_decides pattern).imp Iff.rfl
      fun _ ⟨fault, faulty, isFailure⟩ =>
        isFailure ▸ .pattern pattern fault faulty
  have matched : Decides (context.dialect = .postgres)
      ((Leaf.regexp pattern).IsRefusal context attr)
      context.dialect.requireMatchOperator :=
    ((context.dialect.require_decides .regularExpressions).imp Iff.rfl
      fun _ ⟨lacks, isFailure⟩ => isFailure ▸ .dialect _ _ lacks).returning
    fun _ => ⟨_, rfl⟩
  have legal : Text.IsInlinable pattern ∧ context.dialect = .postgres ↔
      (Leaf.regexp pattern).IsLegal context attr :=
    ⟨fun ⟨inlinable, postgres⟩ =>
      .pattern pattern notBoolean postgres inlinable,
      fun | .pattern _ _ postgres inlinable => ⟨inlinable, postgres⟩⟩
  unfold ofPattern
  refine (checked.bind fun _ => matched.returning fun symbol => ?_).imp legal
    fun _ allowed => allowed
  split <;> exact ⟨_, rfl⟩

theorem networkTemplate_decides (relation : Containment) (literal : Literal) :
    Decides (context.dialect = .postgres ∧ literal.DenotesNetwork)
      ((Leaf.containment relation literal).IsRefusal context attr)
      (networkTemplate context attr relation literal) := by
  have required : Decides (context.dialect = .postgres)
      ((Leaf.containment relation literal).IsRefusal context attr)
      (context.dialect.require .networkContainment) :=
    (context.dialect.require_decides .networkContainment).imp Iff.rfl
      fun _ ⟨lacks, isFailure⟩ => isFailure ▸ .dialect _ _ lacks
  have encoded : Decides literal.DenotesNetwork
      ((Leaf.containment relation literal).IsRefusal context attr)
      (encodeValue attr.id .inet literal) :=
    (encodeValue_decides attr.id (by decide) literal).imp
      Literal.isOperand_inet_iff fun failure => .operand _ literal failure rfl
  unfold networkTemplate
  refine required.bind fun _ => encoded.returning fun value => ?_
  cases relation <;> exact ⟨_, rfl⟩

theorem isLegal_networks_iff {relation : Containment} {literal : Literal}
    (network : attr.type = .scalar .inet ∨ ∃ target,
      attr.type = .supernet target) :
    (Leaf.containment relation literal).IsLegal context attr ↔
      context.dialect = .postgres ∧ literal.DenotesNetwork := by
  constructor
  · intro legal
    cases legal with
    | networks _ _ _ postgres denotes => exact ⟨postgres, denotes⟩
    | texts _ _ string _ _ => simp [string] at network
  · exact fun ⟨postgres, denotes⟩ =>
      .networks relation literal network postgres denotes

theorem isLegal_texts_iff {relation : Containment} {text : String}
    (string : attr.type = .scalar .string) :
    (Leaf.containment relation (.string text)).IsLegal context attr ↔
      Text.IsInlinable text ∧
        relation ∈ [Containment.startsWith, .contains, .containedBy] := by
  constructor
  · intro legal
    cases legal with
    | networks _ _ network _ _ => simp [string] at network
    | texts _ _ _ ofTexts inlinable => exact ⟨inlinable, ofTexts⟩
  · exact fun ⟨inlinable, ofTexts⟩ =>
      .texts relation text string ofTexts inlinable

theorem ofContainment_decides (relation : Containment) (literal : Literal) :
    Decides ((Leaf.containment relation literal).IsLegal context attr)
      ((Leaf.containment relation literal).IsRefusal context attr)
      (ofContainment context attr relation literal) := by
  unfold ofContainment
  split
  next inet =>
    rw [isLegal_networks_iff (.inl inet)]
    exact (networkTemplate_decides relation _).returning fun _ => ⟨_, rfl⟩
  next target supernet =>
    rw [isLegal_networks_iff (.inr ⟨target, supernet⟩)]
    exact (networkTemplate_decides relation _).returning fun _ => ⟨_, rfl⟩
  next text string =>
    rw [isLegal_texts_iff string]
    have checked : Decides (Text.IsInlinable text)
        ((Leaf.containment relation (.string text)).IsRefusal context attr)
        (requireInlinable text) :=
      (requireInlinable_decides text).imp Iff.rfl
          fun _ ⟨fault, faulty, isFailure⟩ =>
        .operand _ (.string text) _ rfl (isFailure ▸ .text text fault faulty)
    refine checked.bind fun _ => ?_
    cases relation with
    | startsWith => exact .head _
    | contains => exact .tail _ (.head _)
    | containedBy => exact .tail _ (.tail _ (.head _))
    | containedOnlyBy => exact ⟨by simp, .operator _⟩
    | overlaps => exact ⟨by simp, .operator _⟩
  next string notText =>
    refine ⟨fun legal => ?_, .operand _ _ _ rfl (.type _ _)⟩
    cases legal with
    | networks _ _ network _ _ => simp [string] at network
    | texts _ text _ _ _ => exact notText text rfl
  next notInet notSupernet notString _ =>
    refine ⟨fun legal => ?_, .operator _⟩
    cases legal with
    | networks _ _ network _ _ =>
        rcases network with inet | ⟨target, supernet⟩
        · exact notInet inet
        · exact notSupernet target supernet
    | texts _ _ string _ _ => exact notString string

/-- Building the predicate of a leaf decides whether the attribute has that
leaf. -/
theorem ofLeaf_decides (leaf : Leaf) :
    Decides (leaf.IsLegal context attr) (leaf.IsRefusal context attr)
      (ofLeaf context attr leaf) := by
  unfold ofLeaf
  split
  next boolean =>
    exact ofBoolean_decides (by simpa [Attribute.isBoolean] using boolean) leaf
  next other =>
    have notBoolean : attr.type ≠ .scalar .boolean := by
      simpa [Attribute.isBoolean] using other
    cases leaf with
    | equals literal => exact ofEquality_decides notBoolean literal
    | comparison relation literal =>
        exact ofComparison_decides notBoolean relation literal
    | regexp pattern => exact ofPattern_decides notBoolean pattern
    | empty => exact .empty notBoolean
    | containment relation literal =>
        exact ofContainment_decides relation literal

/-- A leaf has a predicate on an attribute exactly when the attribute has that
leaf, and every other leaf is refused with one of the six errors for leaves. -/
theorem ofFilter_leaf_ok_iff_isLegal (context : Context) (attr : Attribute)
    (leaf : Leaf) :
    ((∃ predicate, ofFilter context attr (.leaf leaf) = .ok predicate) ↔
        leaf.IsLegal context attr) ∧
      (leaf.IsLegal context attr ∨
        ∃ failure, ofFilter context attr (.leaf leaf) = .error failure ∧
          leaf.IsRefusal context attr failure) :=
  ⟨(ofLeaf_decides leaf).ok_iff, (ofLeaf_decides leaf).refusal⟩

end Predicate

end AttributeQuery
