import AttributeQuery.Proofs.Query.Inlining
import AttributeQuery.Proofs.Sql.Alike

/-!
# The text of a statement does not depend on values

Two queries that differ only in the literals and patterns of their filters, and
in the ids of hostnames, have the same text with placeholders, and values of the
same kinds in the same places. Booleans are an exception: whether the value of a
side table is to be there or not is part of the text.
-/

namespace AttributeQuery

/-! ## Skeletons -/

/-- Leaves with one operator. Where booleans count, those the leaves name are
equal. -/
inductive Leaf.SameOperator (booleansCount : Prop) : Leaf → Leaf → Prop where
  | equals {literal other : Literal}
      (same : booleansCount → ∀ value otherValue, literal = .boolean value →
        other = .boolean otherValue → value = otherValue) :
      SameOperator booleansCount (.equals literal) (.equals other)
  | comparison (relation : Comparison) (literal other : Literal) :
      SameOperator booleansCount (.comparison relation literal)
        (.comparison relation other)
  | regexp (pattern other : String) :
      SameOperator booleansCount (.regexp pattern) (.regexp other)
  | empty : SameOperator booleansCount .empty .empty
  | containment (relation : Containment) (literal other : Literal) :
      SameOperator booleansCount (.containment relation literal)
        (.containment relation other)

mutual

/-- Filters that are put together in the same way from leaves with the same
operators. -/
def Filter.SameSkeleton (booleansCount : Prop) : Filter → Filter → Prop
  | .leaf single, .leaf other => single.SameOperator booleansCount other
  | .not inner, .not other => inner.SameSkeleton booleansCount other
  | .all children, .all others =>
      Filter.SameSkeletons booleansCount children others
  | .any children, .any others =>
      Filter.SameSkeletons booleansCount children others
  | _, _ => False

/-- Lists of filters that are put together in the same way, one by one. -/
def Filter.SameSkeletons (booleansCount : Prop) :
    List Filter → List Filter → Prop
  | [], [] => True
  | child :: rest, other :: others =>
      child.SameSkeleton booleansCount other ∧
        Filter.SameSkeletons booleansCount rest others
  | _, _ => False

end

/-- Queries on the same attributes in the same order, with filters that are put
together in the same way. Booleans count for attributes that carry them. -/
def Query.SameSkeleton (schema : Schema) (query other : Query) : Prop :=
  List.Forall₂ (fun entry otherEntry => entry.1 = otherEntry.1 ∧
    entry.2.SameSkeleton
      (∃ attr, schema.findAttribute? entry.1 = some attr ∧
        attr.isBoolean = true)
      otherEntry.2) query other

/-! ## Contexts that differ in the ids of hostnames -/

/-- A context with other ids of hostnames. -/
def Context.withHostnames (context : Context) (hostnames : HostnameIds) :
    Context :=
  { context with hostnames }

namespace Location

variable (context : Context) (hostnames : HostnameIds)

/-- The location of an attribute does not depend on hostnames. -/
theorem resolve_withHostnames (attr : Attribute) :
    resolve (context.withHostnames hostnames) attr = resolve context attr := by
  apply resolve_congr
  · rfl
  · rfl
  · intro table _
    apply stored_congr
    · exact .refl _
    · rfl
    · rfl
    · rfl

/-- Alike predicates make alike conditions at one location. -/
theorem apply_alike (location : Location) {predicate other : Predicate}
    (template : predicate.template.Alike other.template)
    (subject : predicate.subject = other.subject)
    (negated : predicate.isNegated = other.isNegated) :
    (location.apply predicate).Alike (location.apply other) := by
  have located : (location.located predicate).Alike
      (location.located other) := by
    cases location with
    | column name => exact template.apply name
    | existence table conditions valueColumn networkColumn =>
        refine ((Condition.Alike.raw _).append (.appendAll _ .empty ?_)).sql ")"
        refine List.rel_append
          (List.forall₂_same.mpr fun condition _ => .refl condition) ?_
        rw [subject, template.isEmpty]
        split
        · exact .nil
        · exact .cons (template.apply _) .nil
  unfold apply
  rw [negated]
  split
  · exact located.negate
  · exact located

end Location

/-! ## Predicates -/

namespace Predicate

variable {context : Context} {hostnames : HostnameIds} {attr : Attribute}

/-- Predicates that differ in values only. -/
structure Alike (first second : Predicate) : Prop where
  template : first.template.Alike second.template
  subject : first.subject = second.subject
  isNegated : first.isNegated = second.isNegated

/-- The kind of the values of a domain: booleans are numbers, all others
texts. -/
theorem encodeValue_kind {id : AttributeId} {domain : ValueDomain}
    {literal : Literal} {value : SqlValue}
    (encoded : encodeValue id domain literal = .ok value) :
    (domain = .boolean ∧ ∃ number, value = .integer number) ∨
      (domain ≠ .boolean ∧ ∃ text, value = .text text) := by
  have inlinable {text : String}
      (required : (do requireInlinable text; return SqlValue.text text) =
        .ok value) :
      ∃ text, value = .text text := by
    obtain ⟨_, -, returned⟩ := bind_eq_ok.mp required
    exact ⟨text, (pure_eq_ok.mp returned).symm⟩
  unfold encodeValue at encoded
  dsimp only at encoded
  split at encoded
  next => exact .inl ⟨rfl, _, (Except.ok.inj encoded).symm⟩
  next => exact .inr ⟨by simp, _, (Except.ok.inj encoded).symm⟩
  next =>
    split at encoded
    · exact .inr ⟨by simp, _, (Except.ok.inj encoded).symm⟩
    · simp at encoded
  next => exact .inr ⟨by simp, _, (Except.ok.inj encoded).symm⟩
  next =>
    obtain ⟨_, -, read⟩ := bind_eq_ok.mp encoded
    split at read
    · exact .inr ⟨by simp, _, (Except.ok.inj read).symm⟩
    · simp at read
  next => exact .inr ⟨by simp, inlinable encoded⟩
  next => exact .inr ⟨by simp, inlinable encoded⟩
  next => exact .inr ⟨by simp, inlinable encoded⟩
  next => exact .inr ⟨by simp, inlinable encoded⟩
  next => simp at encoded

/-- Values of one domain are bound as values of one kind. -/
theorem encodeValue_alike {id : AttributeId} {domain : ValueDomain}
    {literal other : Literal} {value otherValue : SqlValue}
    (encoded : encodeValue id domain literal = .ok value)
    (encodedOther : encodeValue id domain other = .ok otherValue) :
    value.Alike otherValue := by
  rcases encodeValue_kind encoded with
    ⟨isBoolean, number, rfl⟩ | ⟨notBoolean, text, rfl⟩
  · rcases encodeValue_kind encodedOther with ⟨-, other, rfl⟩ | ⟨notBoolean, -⟩
    · exact .integer number other
    · exact absurd isBoolean notBoolean
  · rcases encodeValue_kind encodedOther with ⟨isBoolean, -⟩ | ⟨-, other, rfl⟩
    · exact absurd isBoolean notBoolean
    · exact .text text other

/-- Operands of one attribute are bound as values of one kind, with one cast. -/
theorem operand_alike {literal other : Literal} {value otherValue : SqlValue}
    {castText otherCast : Option String}
    (bound : operand context attr literal = .ok (value, castText))
    (boundOther : operand (context.withHostnames hostnames) attr other =
      .ok (otherValue, otherCast)) :
    value.Alike otherValue ∧ castText = otherCast := by
  obtain ⟨isOperand, rfl⟩ := operand_eq_ok.mp bound
  obtain ⟨isOther, rfl⟩ := operand_eq_ok.mp boundOther
  refine ⟨?_, rfl⟩
  cases isOperand with
  | scalar type encoded =>
      cases isOther with
      | scalar sameType encodedOther =>
          obtain rfl := AttributeType.scalar.inj (type.symm.trans sameType)
          exact encodeValue_alike encoded encodedOther
      | hostname isLink =>
          simp [Attribute.isLink, AttributeType.isLink, type] at isLink
  | hostname isLink =>
      cases isOther with
      | scalar type =>
          simp [Attribute.isLink, AttributeType.isLink, type] at isLink
      | hostname => exact .integer _ _

theorem comparedBy_alike (symbol : String) {value otherValue : SqlValue}
    (alike : value.Alike otherValue) (castText : Option String) :
    (comparedBy symbol value castText).Alike
      (comparedBy symbol otherValue castText) where
  template := .cons .column (.cons (.sql _) (.cons (.param alike)
    (Template.alike_castPieces castText)))
  subject := rfl
  isNegated := rfl

theorem ofEquality_alike {literal other : Literal}
    {predicate otherPredicate : Predicate}
    (built : ofEquality context attr literal = .ok predicate)
    (builtOther : ofEquality (context.withHostnames hostnames) attr other =
      .ok otherPredicate) : predicate.Alike otherPredicate := by
  obtain ⟨⟨value, castText⟩, bound, returned⟩ := bind_eq_ok.mp built
  obtain ⟨⟨otherValue, otherCast⟩, boundOther, returnedOther⟩ :=
    bind_eq_ok.mp builtOther
  obtain ⟨alike, rfl⟩ := operand_alike bound boundOther
  rw [← pure_eq_ok.mp returned, ← pure_eq_ok.mp returnedOther]
  exact comparedBy_alike "=" alike castText

theorem ofComparison_alike {relation : Comparison} {literal other : Literal}
    {predicate otherPredicate : Predicate}
    (built : ofComparison context attr relation literal = .ok predicate)
    (builtOther : ofComparison (context.withHostnames hostnames) attr relation
      other = .ok otherPredicate) : predicate.Alike otherPredicate := by
  unfold ofComparison at built builtOther
  split at built
  next => simp at built
  next noLink =>
    rw [if_neg noLink] at builtOther
    obtain ⟨⟨value, castText⟩, bound, returned⟩ := bind_eq_ok.mp built
    obtain ⟨⟨otherValue, otherCast⟩, boundOther, returnedOther⟩ :=
      bind_eq_ok.mp builtOther
    obtain ⟨alike, rfl⟩ := operand_alike bound boundOther
    rw [← pure_eq_ok.mp returned, ← pure_eq_ok.mp returnedOther]
    exact comparedBy_alike _ alike castText

theorem IsPattern.alike {text other : String}
    {predicate otherPredicate : Predicate}
    (isPattern : IsPattern context attr text predicate)
    (isOther : IsPattern (context.withHostnames hostnames) attr other
      otherPredicate) :
    predicate.Alike otherPredicate := by
  have alike := SqlValue.Alike.text text other
  cases isPattern with
  | hostname isLink =>
      cases isOther with
      | hostname =>
          exact ⟨.cons .column
            (.cons (.sql _) (.cons (.param alike) (.cons (.sql _) .nil))), rfl,
            rfl⟩
      | value notLink => simp [isLink] at notLink
  | value notLink =>
      cases isOther with
      | hostname isLink => simp [notLink] at isLink
      | value =>
          exact ⟨.cons .column (.cons (.sql _) (.cons (.param alike) .nil)),
            rfl, rfl⟩

theorem networkTemplate_alike {relation : Containment} {literal other : Literal}
    {template otherTemplate : Template}
    (built : networkTemplate context attr relation literal = .ok template)
    (builtOther : networkTemplate (context.withHostnames hostnames) attr
      relation other = .ok otherTemplate) : template.Alike otherTemplate := by
  obtain ⟨_, -, encoded⟩ := bind_eq_ok.mp built
  obtain ⟨network, encodes, chosen⟩ := bind_eq_ok.mp encoded
  obtain ⟨_, -, encodedOther⟩ := bind_eq_ok.mp builtOther
  obtain ⟨otherNetwork, encodesOther, chosenOther⟩ := bind_eq_ok.mp encodedOther
  have alikeNetwork : List.Forall₂ TemplatePiece.Alike
      (networkPieces network (context.dialect.cast .inet))
      (networkPieces otherNetwork (context.dialect.cast .inet)) :=
    .cons (.param (encodeValue_alike encodes encodesOther))
      (Template.alike_castPieces _)
  cases relation with
  | contains | containedBy | overlaps =>
      rw [← pure_eq_ok.mp chosen, ← pure_eq_ok.mp chosenOther]
      exact .cons .column (.cons (.sql _) alikeNetwork)
  | startsWith =>
      rw [← pure_eq_ok.mp chosen, ← pure_eq_ok.mp chosenOther]
      refine List.rel_append (List.rel_append (List.rel_append (.cons .column
        (.cons (.sql _) alikeNetwork)) ?_) alikeNetwork) (.cons (.sql _) .nil)
      exact .cons (.sql _) (.cons .column (.cons (.sql _) .nil))
  | containedOnlyBy =>
      rw [← pure_eq_ok.mp chosen, ← pure_eq_ok.mp chosenOther]
      refine List.rel_append (List.rel_append (List.rel_append (.cons .column
        (.cons (.sql _) alikeNetwork)) ?_) alikeNetwork) (.cons (.sql _) .nil)
      exact .cons (.sql _) (.cons .column (.cons (.sql _) .nil))

theorem textTemplate_alike {dialect : Dialect} {relation : Containment}
    {text other : String} {template otherTemplate : Template}
    (found : textTemplate? dialect relation text = some template)
    (foundOther : textTemplate? dialect relation other = some otherTemplate) :
    template.Alike otherTemplate := by
  have like (pattern otherPattern : String) :
      (Dialect.like pattern).Alike (Dialect.like otherPattern) :=
    .cons .column
      (.cons (.sql _) (.cons (.param (.text _ _)) (.cons (.sql _) .nil)))
  cases relation with
  | startsWith =>
      obtain rfl := Option.some.inj found
      obtain rfl := Option.some.inj foundOther
      cases dialect with
      | postgres => exact like _ _
      | sqlite =>
          exact .cons (.sql _)
            (.cons .column
              (.cons (.sql _)
                (.cons (.param (.text _ _))
                  (.cons (.sql _) (.cons (.param (.text _ _)) .nil)))))
  | contains =>
      obtain rfl := Option.some.inj found
      obtain rfl := Option.some.inj foundOther
      cases dialect with
      | postgres => exact like _ _
      | sqlite =>
          exact .cons (.sql _)
            (.cons .column
              (.cons (.sql _)
                (.cons (.param (.text _ _)) (.cons (.sql _) .nil))))
  | containedBy =>
      obtain rfl := Option.some.inj found
      obtain rfl := Option.some.inj foundOther
      cases dialect <;>
        exact .cons (.sql _)
          (.cons (.param (.text _ _))
            (.cons (.sql _) (.cons .column (.cons (.sql _) .nil))))
  | containedOnlyBy | overlaps => simp [textTemplate?] at found

theorem IsContainment.alike {relation : Containment} {literal other : Literal}
    {predicate otherPredicate : Predicate}
    (isContainment : IsContainment context attr relation literal predicate)
    (isOther : IsContainment (context.withHostnames hostnames) attr relation
      other otherPredicate) : predicate.Alike otherPredicate := by
  cases isContainment with
  | network type found =>
      cases isOther with
      | network _ foundOther =>
          exact ⟨networkTemplate_alike found foundOther, rfl, rfl⟩
      | supernet typeOther | text typeOther => simp [type] at typeOther
  | supernet type found =>
      cases isOther with
      | supernet _ foundOther =>
          exact ⟨networkTemplate_alike found foundOther, rfl, rfl⟩
      | network typeOther | text typeOther => simp [type] at typeOther
  | text type _ _ found =>
      cases isOther with
      | text _ _ _ foundOther =>
          exact ⟨textTemplate_alike found foundOther, rfl, rfl⟩
      | network typeOther | supernet typeOther => simp [type] at typeOther

/-- Leaves with one operator have predicates that differ in values only. -/
theorem ofLeaf_alike {leaf other : Leaf} {booleansCount : Prop}
    (same : leaf.SameOperator booleansCount other)
    (count : attr.isBoolean = true → booleansCount)
    {predicate otherPredicate : Predicate}
    (built : ofLeaf context attr leaf = .ok predicate)
    (builtOther : ofLeaf (context.withHostnames hostnames) attr other =
      .ok otherPredicate) :
    predicate.Alike otherPredicate := by
  unfold ofLeaf at built builtOther
  split at built
  next isBoolean =>
    rw [if_pos isBoolean] at builtOther
    obtain ⟨value, rfl, rfl⟩ := ofBoolean_eq_ok built
    obtain ⟨otherValue, rfl, rfl⟩ := ofBoolean_eq_ok builtOther
    cases same with
    | equals equalBooleans =>
        obtain rfl := equalBooleans (count isBoolean) value otherValue rfl rfl
        refine ⟨?_, rfl, rfl⟩
        cases attr.isSpecial with
        | true => exact .cons .column .nil
        | false => exact .nil
  next notBoolean =>
    rw [if_neg notBoolean] at builtOther
    cases same with
    | equals => exact ofEquality_alike built builtOther
    | comparison => exact ofComparison_alike built builtOther
    | regexp =>
        exact (ofPattern_eq_ok.mp built).alike (ofPattern_eq_ok.mp builtOther)
    | empty =>
        obtain rfl := Except.ok.inj built
        obtain rfl := Except.ok.inj builtOther
        exact ⟨.cons .column (.cons (.sql _) .nil), rfl, rfl⟩
    | containment =>
        exact (ofContainment_eq_ok.mp built).alike
          (ofContainment_eq_ok.mp builtOther)

/-- Lists of as many literals have predicates that differ in values only. -/
theorem ofMembership_alike {literals others : List Literal}
    (sameLength : literals.length = others.length)
    {predicate otherPredicate : Predicate}
    (built : ofMembership context attr literals = .ok predicate)
    (builtOther : ofMembership (context.withHostnames hostnames) attr others =
      .ok otherPredicate) : predicate.Alike otherPredicate := by
  obtain ⟨⟨values, castText⟩, bound, returned⟩ := bind_eq_ok.mp built
  obtain ⟨⟨otherValues, otherCast⟩, boundOther, returnedOther⟩ :=
    bind_eq_ok.mp builtOther
  obtain ⟨each, isCast⟩ := operands_eq_ok bound
  obtain ⟨eachOther, isOtherCast⟩ := operands_eq_ok boundOther
  have alike : List.Forall₂ SqlValue.Alike values otherValues :=
    forall₂_of_forall₂ sameLength each eachOther
      fun _ _ _ _ first second => (operand_alike first second).1
  have sameCast : castText = otherCast := by
    have bothEmpty : literals = [] ↔ others = [] := by
      rw [← List.length_eq_zero_iff, sameLength, List.length_eq_zero_iff]
    rw [isCast, isOtherCast]
    simp only [bothEmpty]
    rfl
  rw [← pure_eq_ok.mp returned, ← pure_eq_ok.mp returnedOther, sameCast]
  refine ⟨?_, rfl, rfl⟩
  exact List.rel_append (List.rel_append (.cons .column (.cons (.sql _) .nil))
    (Template.alike_conditionPieces (.paramList otherCast alike)))
    (.cons (.sql _) .nil)

end Predicate

/-! ## Filters -/

namespace Filter

variable {context : Context} {hostnames : HostnameIds} {attr : Attribute}
  {location : Location} {booleansCount : Prop}

/-- Runs of as many equalities have alike conditions. -/
theorem compileRun_alike {run otherRun : List Literal}
    (sameLength : run.length = otherRun.length)
    (mergeable : run = [] ∨ attr.isBoolean = false)
    {conditions others : List Condition}
    (compiled : compileRun context attr location run = .ok conditions)
    (compiledOther : compileRun (context.withHostnames hostnames) attr location
      otherRun =
      .ok others) : List.Forall₂ Condition.Alike conditions others := by
  have applied {predicate otherPredicate : Predicate}
      (alike : predicate.Alike otherPredicate) :
      List.Forall₂ Condition.Alike [location.apply predicate]
        [location.apply otherPredicate] :=
    .cons (location.apply_alike alike.template alike.subject alike.isNegated)
      .nil
  match run, otherRun, sameLength with
  | [], [], _ =>
      obtain rfl := Except.ok.inj compiled
      obtain rfl := Except.ok.inj compiledOther
      exact .nil
  | [literal], [other], _ =>
      obtain ⟨predicate, built, returned⟩ := bind_eq_ok.mp compiled
      obtain ⟨otherPredicate, builtOther, returnedOther⟩ :=
        bind_eq_ok.mp compiledOther
      rw [← pure_eq_ok.mp returned, ← pure_eq_ok.mp returnedOther]
      have notBoolean : attr.isBoolean = false := by simpa using mergeable
      rw [ofLeaf_equals notBoolean] at built builtOther
      exact applied (Predicate.ofEquality_alike built builtOther)
  | literal :: second :: rest, other :: otherSecond :: otherRest, sameLength =>
      obtain ⟨predicate, built, returned⟩ := bind_eq_ok.mp compiled
      obtain ⟨otherPredicate, builtOther, returnedOther⟩ :=
        bind_eq_ok.mp compiledOther
      rw [← pure_eq_ok.mp returned, ← pure_eq_ok.mp returnedOther]
      exact applied (Predicate.ofMembership_alike sameLength built builtOther)

/-- Filters with one skeleton are both equalities to merge, or neither is. -/
theorem SameSkeleton.mergeable {filter other : Filter} (context : Context)
    (hostnames : HostnameIds) (attr : Attribute)
    (same : filter.SameSkeleton booleansCount other) :
    (∃ literal otherLiteral, filter.mergeable? context attr = some literal ∧
      other.mergeable? (context.withHostnames hostnames) attr =
        some otherLiteral) ∨
    (filter.mergeable? context attr = none ∧
      other.mergeable? (context.withHostnames hostnames) attr = none) := by
  cases filter with
  | leaf single =>
      cases other with
      | leaf otherSingle =>
          rw [SameSkeleton] at same
          cases same with
          | equals =>
              simp only [mergeable?, Context.withHostnames]
              by_cases merges : (context.options.mergeEqualities &&
                !attr.isBoolean) = true
              · exact .inl ⟨_, _, if_pos merges, if_pos merges⟩
              · exact .inr ⟨if_neg merges, if_neg merges⟩
          | comparison | regexp | empty | containment => exact .inr ⟨rfl, rfl⟩
      | not | all | any => simp [SameSkeleton] at same
  | not inner =>
      cases other with
      | not => exact .inr ⟨rfl, rfl⟩
      | leaf | all | any => simp [SameSkeleton] at same
  | all children =>
      cases other with
      | all => exact .inr ⟨rfl, rfl⟩
      | leaf | not | any => simp [SameSkeleton] at same
  | any children =>
      cases other with
      | any => exact .inr ⟨rfl, rfl⟩
      | leaf | not | all => simp [SameSkeleton] at same

mutual

/-- Filters with one skeleton have alike conditions. -/
theorem compile_alike (count : attr.isBoolean = true → booleansCount) :
    ∀ (filter other : Filter) {condition otherCondition : Condition},
    filter.SameSkeleton booleansCount other →
    filter.compile context attr location = .ok condition →
    other.compile (context.withHostnames hostnames) attr location =
      .ok otherCondition →
      condition.Alike otherCondition
  | .leaf single, .leaf other, condition, otherCondition, same, compiled,
        compiledOther => by
      obtain ⟨predicate, built, returned⟩ := bind_eq_ok.mp compiled
      obtain ⟨otherPredicate, builtOther, returnedOther⟩ :=
        bind_eq_ok.mp compiledOther
      rw [← pure_eq_ok.mp returned, ← pure_eq_ok.mp returnedOther]
      have alike := Predicate.ofLeaf_alike same count built builtOther
      exact location.apply_alike alike.template alike.subject alike.isNegated
  | .not inner, .not other, condition, otherCondition, same, compiled,
        compiledOther => by
      obtain ⟨_, compiledInner, returned⟩ := bind_eq_ok.mp compiled
      obtain ⟨_, compiledOtherInner, returnedOther⟩ :=
        bind_eq_ok.mp compiledOther
      rw [← pure_eq_ok.mp returned, ← pure_eq_ok.mp returnedOther]
      exact (compile_alike count inner other same compiledInner
        compiledOtherInner).negate
  | .all [], .all [], condition, otherCondition, same, compiled,
        compiledOther => by
      obtain rfl := Except.ok.inj compiled
      obtain rfl := Except.ok.inj compiledOther
      exact .refl (emptyAll context)
  | .all (child :: rest), .all (other :: others), condition, otherCondition,
      same, compiled, compiledOther => by
      obtain ⟨_, compiledAll, returned⟩ := bind_eq_ok.mp compiled
      obtain ⟨_, compiledOtherAll, returnedOther⟩ := bind_eq_ok.mp compiledOther
      rw [← pure_eq_ok.mp returned, ← pure_eq_ok.mp returnedOther]
      exact .join "AND"
        (compileAll_alike count (child :: rest) (other :: others) same
          compiledAll compiledOtherAll)
  | .any [], .any [], condition, otherCondition, same, compiled,
        compiledOther => by
      obtain rfl := Except.ok.inj compiled
      obtain rfl := Except.ok.inj compiledOther
      exact .refl never
  | .any (child :: rest), .any (other :: others), condition, otherCondition,
      same, compiled, compiledOther => by
      obtain ⟨_, compiledAny, returned⟩ := bind_eq_ok.mp compiled
      obtain ⟨_, compiledOtherAny, returnedOther⟩ := bind_eq_ok.mp compiledOther
      rw [← pure_eq_ok.mp returned, ← pure_eq_ok.mp returnedOther]
      exact .join "OR"
        (compileAny_alike count (child :: rest) (other :: others) rfl
          (.inl rfl) same compiledAny compiledOtherAny)

/-- Lists of filters with one skeleton have alike conditions. -/
theorem compileAll_alike (count : attr.isBoolean = true → booleansCount) :
    ∀ (children others : List Filter)
      {conditions otherConditions : List Condition},
    SameSkeletons booleansCount children others →
    compileAll context attr location children = .ok conditions →
    compileAll (context.withHostnames hostnames) attr location others =
      .ok otherConditions →
      List.Forall₂ Condition.Alike conditions otherConditions
  | [], [], conditions, otherConditions, same, compiled, compiledOther => by
      obtain rfl := Except.ok.inj compiled
      obtain rfl := Except.ok.inj compiledOther
      exact .nil
  | child :: rest, other :: others, conditions, otherConditions, same, compiled,
      compiledOther => by
      obtain ⟨_, compiledChild, later⟩ := bind_eq_ok.mp compiled
      obtain ⟨_, compiledRest, returned⟩ := bind_eq_ok.mp later
      obtain ⟨_, compiledOtherChild, laterOther⟩ := bind_eq_ok.mp compiledOther
      obtain ⟨_, compiledOthers, returnedOther⟩ := bind_eq_ok.mp laterOther
      rw [← pure_eq_ok.mp returned, ← pure_eq_ok.mp returnedOther]
      rw [SameSkeletons] at same
      exact .cons
        (compile_alike count child other same.1 compiledChild
          compiledOtherChild)
        (compileAll_alike count rest others same.2 compiledRest compiledOthers)

/-- Disjunctions with one skeleton, after runs of as many equalities, have alike
conditions. -/
theorem compileAny_alike (count : attr.isBoolean = true → booleansCount) :
    ∀ (children others : List Filter) {run otherRun : List Literal}
    {conditions otherConditions : List Condition},
    run.length = otherRun.length →
    run = [] ∨ attr.isBoolean = false →
    SameSkeletons booleansCount children others →
    compileAny context attr location run children = .ok conditions →
    compileAny (context.withHostnames hostnames) attr location otherRun others =
      .ok otherConditions →
      List.Forall₂ Condition.Alike conditions otherConditions
  | [], [], run, otherRun, conditions, otherConditions, sameLength, notBoolean,
      same, compiled,
      compiledOther =>
        compileRun_alike sameLength notBoolean compiled compiledOther
  | child :: rest, other :: others, run, otherRun, conditions, otherConditions,
      sameLength, notBoolean, same, compiled, compiledOther => by
      rw [SameSkeletons] at same
      rw [compileAny] at compiled compiledOther
      rcases same.1.mergeable context hostnames attr with
        ⟨literal, otherLiteral, isEquality,
          isOtherEquality⟩ | ⟨isNone, isOtherNone⟩
      · rw [isEquality] at compiled
        rw [isOtherEquality] at compiledOther
        exact compileAny_alike count rest others (by simpa using sameLength)
          (.inr (eq_equals_of_mergeable? isEquality).2) same.2
          compiled compiledOther
      · rw [isNone] at compiled
        rw [isOtherNone] at compiledOther
        obtain ⟨_, compiledRun, later⟩ := bind_eq_ok.mp compiled
        obtain ⟨_, compiledChild, last⟩ := bind_eq_ok.mp later
        obtain ⟨_, compiledRest, returned⟩ := bind_eq_ok.mp last
        obtain ⟨_, compiledOtherRun, laterOther⟩ := bind_eq_ok.mp compiledOther
        obtain ⟨_, compiledOtherChild, lastOther⟩ := bind_eq_ok.mp laterOther
        obtain ⟨_, compiledOthers, returnedOther⟩ := bind_eq_ok.mp lastOther
        rw [← pure_eq_ok.mp returned, ← pure_eq_ok.mp returnedOther]
        exact List.rel_append
          (compileRun_alike sameLength notBoolean compiledRun compiledOtherRun)
          (.cons (compile_alike count child other same.1 compiledChild
            compiledOtherChild)
            (compileAny_alike count rest others rfl
              (.inl rfl) same.2 compiledRest compiledOthers))

end

end Filter

/-! ## Statements -/

namespace Compiler

variable {context : Context} {hostnames : HostnameIds}

theorem conditionIn_alike {id : AttributeId} {filter other : Filter}
    (same : filter.SameSkeleton
      (∃ attr, context.schema.findAttribute? id = some attr ∧
        attr.isBoolean = true) other)
    {condition otherCondition : Condition}
    (compiled : conditionIn context id filter = .ok condition)
    (compiledOther : conditionIn (context.withHostnames hostnames) id other =
      .ok otherCondition) : condition.Alike otherCondition := by
  obtain ⟨attr, required, located⟩ := bind_eq_ok.mp compiled
  obtain ⟨location, resolved, compiledFilter⟩ := bind_eq_ok.mp located
  obtain ⟨otherAttr, requiredOther, locatedOther⟩ := bind_eq_ok.mp compiledOther
  obtain ⟨otherLocation, resolvedOther, compiledFilterOther⟩ :=
    bind_eq_ok.mp locatedOther
  obtain rfl : attr = otherAttr :=
    Except.ok.inj (required.symm.trans requiredOther)
  rw [Location.resolve_withHostnames] at resolvedOther
  obtain rfl : location = otherLocation :=
    Except.ok.inj (resolved.symm.trans resolvedOther)
  have found : context.schema.findAttribute? id = some attr :=
    Schema.requireAttribute_eq_ok.mp (mapError_eq_ok.mp required)
  exact Filter.compile_alike (fun isBoolean => ⟨attr, found, isBoolean⟩) filter
    other same compiledFilter compiledFilterOther

theorem restrict_alike {query other : Query}
    (same : query.SameSkeleton context.schema other)
    {statement otherStatement body otherBody : Condition}
    (alike : statement.Alike otherStatement)
    (restricted : restrict context statement query = .ok body)
    (restrictedOther : restrict (context.withHostnames hostnames) otherStatement
      other = .ok otherBody) : body.Alike otherBody := by
  induction same generalizing statement otherStatement with
  | nil =>
      obtain rfl := Except.ok.inj restricted
      obtain rfl := Except.ok.inj restrictedOther
      exact alike
  | @cons entry otherEntry rest others sameEntry _ ih =>
      obtain ⟨id, filter⟩ := entry
      obtain ⟨otherId, otherFilter⟩ := otherEntry
      obtain ⟨rfl, sameFilter⟩ := sameEntry
      obtain ⟨condition, compiled, later⟩ := bind_eq_ok.mp restricted
      obtain ⟨otherCondition, compiledOther, laterOther⟩ :=
        bind_eq_ok.mp restrictedOther
      exact ih
        ((alike.sql " AND ").append
          (conditionIn_alike sameFilter compiled compiledOther))
        later laterOther

/-- The text of a statement, the number of its values and their kinds do not
depend on the literals, patterns and hostnames of the query. -/
theorem sql_independent {compiler : Compiler} {servertypes : List ServertypeId}
    {query other : Query} {hostnames otherHostnames : HostnameIds}
    (same : query.SameSkeleton compiler.schema other)
    {statement otherStatement : Statement}
    (assembled : compiler.assemble servertypes query hostnames =
      .ok (some statement))
    (assembledOther : compiler.assemble servertypes other otherHostnames =
      .ok (some otherStatement)) :
    statement.sql = otherStatement.sql ∧
      statement.params.length = otherStatement.params.length ∧
      List.Forall₂ SqlValue.Alike statement.params otherStatement.params := by
  obtain ⟨candidates, body, declared, -, restricted, rfl⟩ :=
    assemble_eq_some assembled
  obtain ⟨otherCandidates, otherBody, declaredOther, -, restrictedOther, rfl⟩ :=
    assemble_eq_some assembledOther
  obtain rfl : candidates = otherCandidates :=
    Except.ok.inj (declared.symm.trans declaredOther)
  have restrictedWith : restrict
      ((compiler.context candidates hostnames).withHostnames otherHostnames)
      (selection (compiler.context candidates hostnames)) other =
        .ok otherBody :=
    restrictedOther
  have alike : body.Alike otherBody :=
    restrict_alike same (.refl _) restricted restrictedWith
  have ordered := alike.sql (order (compiler.context candidates hostnames))
  exact ⟨ordered.render _, ordered.params.length_eq, ordered.params⟩

/-- Other numbers, another pattern and other servers leave the text as it is. -/
theorem sql_independent_hypervisor :
    let compiler : Compiler :=
      { schema := ⟨["vm"], [⟨"hypervisor", .hostname none, none, false⟩,
            ⟨"memory", .scalar .number, none, false⟩,
            ⟨"os", .scalar .string, none, false⟩],
          [⟨"vm", "hypervisor", none⟩, ⟨"vm", "memory", none⟩,
            ⟨"vm", "os", none⟩]⟩
        settings := {} }
    let query : Query := [("hypervisor", .equals (.string "a")),
      ("memory", .any [.equals (.integer 1), .equals (.integer 2)]),
      ("os", .not (.leaf (.regexp "deb")))]
    let other : Query := [("hypervisor", .equals (.string "b")),
      ("memory", .any [.equals (.integer 1024), .equals (.integer (-3))]),
      ("os", .not (.leaf (.regexp "x) OR (true")))]
    ∃ statement otherStatement,
      compiler.assemble ["vm"] query ⟨[("a", 1)]⟩ = .ok (some statement) ∧
      compiler.assemble ["vm"] other ⟨[("b", 2)]⟩ = .ok (some otherStatement) ∧
      statement.sql = otherStatement.sql := by
  intro compiler query other
  have assembled : ∃ statement,
      compiler.assemble ["vm"] query ⟨[("a", 1)]⟩ = .ok (some statement) :=
    ⟨_, rfl⟩
  have assembledOther : ∃ statement,
      compiler.assemble ["vm"] other ⟨[("b", 2)]⟩ = .ok (some statement) :=
    ⟨_, rfl⟩
  have same : query.SameSkeleton compiler.schema other := by
    refine .cons ⟨rfl, .equals (by simp)⟩
      (.cons ⟨rfl, ?_⟩ (.cons ⟨rfl, .regexp _ _⟩ .nil))
    exact ⟨.equals (by simp), .equals (by simp), trivial⟩
  obtain ⟨statement, assembled⟩ := assembled
  obtain ⟨otherStatement, assembledOther⟩ := assembledOther
  exact ⟨statement, otherStatement, assembled, assembledOther,
    (sql_independent same assembled assembledOther).1⟩

end Compiler

end AttributeQuery
