import AttributeQuery.Proofs.Success
import AttributeQuery.Query.Predicate

/-!
# What predicates are built from

The predicates that a leaf can have, said once by cases: what is built from its
literal for an attribute, and what has been checked before. Whatever all
predicates have in common follows from these cases, without another look at how
they are built.
-/

namespace AttributeQuery.Predicate

variable {context : Context} {attr : Attribute}

/-! ## Operands -/

/-- The cast of the operands of an attribute. -/
def operandCast (context : Context) (attr : Attribute) : Option String :=
  match attr.type with
  | .scalar domain => context.dialect.cast domain
  | _ => none

theorem operandCast_of_isLink (isLink : attr.isLink = true) :
    operandCast context attr = none := by
  unfold operandCast
  split
  next type => simp [Attribute.isLink, AttributeType.isLink, type] at isLink
  next => rfl

/-- The values that a literal is bound as: that of a domain, or for links the id
of the server that a hostname stands for. -/
inductive IsOperand (context : Context) (attr : Attribute) :
    Literal → SqlValue → Prop where
  | scalar {domain : ValueDomain} {literal : Literal} {value : SqlValue}
      (type : attr.type = .scalar domain)
      (encoded : encodeValue attr.id domain literal = .ok value) :
      IsOperand context attr literal value
  | hostname {name : String} {serverId : Int64} (isLink : attr.isLink = true)
      (checked : requireInlinable name = .ok ())
      (known : context.hostnames.get? name = some serverId) :
      IsOperand context attr (.string name) (.integer serverId)

/-- The cast of an operand depends on the attribute alone. -/
theorem operand_eq_ok {literal : Literal} {value : SqlValue}
    {castText : Option String} :
    operand context attr literal = .ok (value, castText) ↔
      IsOperand context attr literal value ∧
        castText = operandCast context attr := by
  constructor
  · intro bound
    unfold operand at bound
    split at bound
    next type =>
      obtain ⟨encoded, isEncoded, returned⟩ := bind_eq_ok.mp bound
      obtain ⟨rfl, rfl⟩ := Prod.mk.inj (pure_eq_ok.mp returned)
      exact ⟨.scalar type isEncoded, by simp [operandCast, type]⟩
    next notScalar =>
      have isLink : attr.isLink = true := by
        cases type : attr.type with
        | scalar domain => exact absurd type (notScalar domain)
        | hostname | reverseHostname | supernet =>
            simp [Attribute.isLink, AttributeType.isLink, type]
      obtain ⟨checked, looked⟩ := check_bind_eq_ok.mp bound
      split at looked
      next known =>
        obtain ⟨rfl, rfl⟩ := Prod.mk.inj (pure_eq_ok.mp looked)
        exact ⟨.hostname isLink checked known,
          (operandCast_of_isLink isLink).symm⟩
      next => simp at looked
    next => simp at bound
  · rintro ⟨isOperand, rfl⟩
    cases isOperand with
    | scalar type encoded =>
        simp only [operand, operandCast, type, encoded]
        rfl
    | hostname isLink checked known =>
        rw [operandCast_of_isLink isLink]
        cases type : attr.type with
        | scalar domain =>
            simp [Attribute.isLink, AttributeType.isLink, type] at isLink
        | hostname | reverseHostname | supernet =>
            simp only [operand, type, checked, known]
            rfl

theorem cast_of_operand {literal : Literal} {value : SqlValue}
    {castText : Option String}
    (bound : operand context attr literal = .ok (value, castText)) :
    castText = operandCast context attr :=
  (operand_eq_ok.mp bound).2

/-- The operands of a list are those of its literals. -/
theorem operands_eq_ok {literals : List Literal} {castText : Option String}
    {values : List SqlValue} {last : Option String}
    (bound : operands context attr castText literals = .ok (values, last)) :
    List.Forall₂ (fun literal value =>
      operand context attr literal = .ok (value, operandCast context attr))
        literals values ∧
    last = if literals = [] then castText else operandCast context attr := by
  induction literals generalizing castText values with
  | nil =>
      simp only [operands, Except.ok.injEq, Prod.mk.injEq] at bound
      obtain ⟨rfl, rfl⟩ := bound
      exact ⟨.nil, by simp⟩
  | cons literal rest ih =>
      obtain ⟨⟨value, first⟩, boundFirst, later⟩ := bind_eq_ok.mp bound
      obtain ⟨⟨others, final⟩, boundRest, returned⟩ := bind_eq_ok.mp later
      obtain ⟨rfl, rfl⟩ := Prod.ext_iff.mp (pure_eq_ok.mp returned)
      obtain rfl := cast_of_operand boundFirst
      obtain ⟨each, isLast⟩ := ih boundRest
      refine ⟨.cons boundFirst each, ?_⟩
      rw [isLast]
      simp

/-! ## Comparisons -/

/-- A boolean is compared with a literal only, and that is one of its values. -/
theorem ofBoolean_eq_ok {leaf : Leaf} {predicate : Predicate}
    (built : ofBoolean attr leaf = .ok predicate) :
    ∃ value, leaf = .equals (.boolean value) ∧
      predicate =
        { template := ⟨if attr.isSpecial then [.column] else []⟩,
              isNegated := !value } := by
  unfold ofBoolean at built
  split at built
  next value => exact ⟨value, rfl, (Except.ok.inj built).symm⟩
  next => simp at built
  next => simp at built

/-- An equality compares the column with the operand. -/
theorem ofEquality_eq_ok {literal : Literal} {predicate : Predicate}
    (built : ofEquality context attr literal = .ok predicate) :
    ∃ value,
      operand context attr literal = .ok (value, operandCast context attr) ∧
      predicate = comparedBy "=" value (operandCast context attr) := by
  obtain ⟨⟨value, castText⟩, bound, returned⟩ := bind_eq_ok.mp built
  obtain rfl := cast_of_operand bound
  exact ⟨value, bound, (pure_eq_ok.mp returned).symm⟩

/-- A comparison compares the column with the operand, if that has an order. -/
theorem ofComparison_eq_ok {relation : Comparison} {literal : Literal}
    {predicate : Predicate}
    (built : ofComparison context attr relation literal = .ok predicate) :
    attr.isLink = false ∧
      ∃ value,
        operand context attr literal = .ok (value, operandCast context attr) ∧
        predicate = comparedBy relation.symbol value
          (operandCast context attr) := by
  unfold ofComparison at built
  split at built
  next => cases built
  next noLink =>
    obtain ⟨⟨value, castText⟩, bound, returned⟩ := bind_eq_ok.mp built
    obtain rfl := cast_of_operand bound
    exact ⟨by simpa using noLink, value, bound, (pure_eq_ok.mp returned).symm⟩

/-- A membership compares the column with the operands of all literals. -/
theorem ofMembership_eq_ok {literal : Literal} {rest : List Literal}
    {predicate : Predicate}
    (built : ofMembership context attr (literal :: rest) = .ok predicate) :
    ∃ first others, List.Forall₂ (fun literal value =>
        operand context attr literal = .ok (value, operandCast context attr))
        (literal :: rest) (first :: others) ∧
      predicate.isNegated = false ∧
      predicate.subject = .value ∧
      predicate.template = ⟨[TemplatePiece.column, TemplatePiece.sql " IN ("] ++
        Template.conditionPieces
          (Condition.paramList (operandCast context attr) (first :: others)) ++
        [TemplatePiece.sql ")"]⟩ := by
  obtain ⟨⟨values, castText⟩, bound, returned⟩ := bind_eq_ok.mp built
  obtain ⟨each, isLast⟩ := operands_eq_ok bound
  cases each with
  | cons boundFirst boundRest =>
      obtain rfl : castText = operandCast context attr := by simpa using isLast
      refine ⟨_, _, .cons boundFirst boundRest, ?_⟩
      rw [← pure_eq_ok.mp returned]
      exact ⟨rfl, rfl, rfl⟩

/-! ## Regular expressions -/

/-- The predicates of a regular expression, which one dialect has: for a link,
that the hostname of the server matches, and otherwise that the value matches as
a text. -/
inductive IsPattern (context : Context) (attr : Attribute) (text : String) :
    Predicate → Prop where
  | hostname (isLink : attr.isLink = true)
      (checked : requireInlinable text = .ok ())
      (isPostgres : context.dialect = .postgres) :
      IsPattern context attr text
        { template :=
          ⟨[.column,
            .sql (" IN (SELECT " ++ context.named .serverIdColumn ++ " FROM " ++
              context.named .serverTable ++ " WHERE " ++
                context.named .hostnameColumn ++ " " ++ "~" ++ " "),
              .param (.text text), .sql ")"]⟩ }
  | value (notLink : attr.isLink = false)
      (checked : requireInlinable text = .ok ())
      (isPostgres : context.dialect = .postgres) :
      IsPattern context attr text
        { template := ⟨[.column, .sql "::text ~ ", .param (.text text)]⟩ }

theorem ofPattern_eq_ok {text : String} {predicate : Predicate} :
    ofPattern context attr text = .ok predicate ↔
      IsPattern context attr text predicate := by
  constructor
  · intro built
    obtain ⟨checked, required⟩ := check_bind_eq_ok.mp built
    obtain ⟨symbol, supported, returned⟩ := bind_eq_ok.mp required
    obtain ⟨isSupported, isSymbol⟩ := check_bind_eq_ok.mp supported
    obtain rfl := pure_eq_ok.mp isSymbol
    have isPostgres : context.dialect = .postgres := by
      cases dialect : context.dialect with
      | postgres => rfl
      | sqlite =>
          simp [dialect, Dialect.require, Dialect.supports] at isSupported
    dsimp only at returned
    split at returned
    next isLink =>
      rw [← pure_eq_ok.mp returned]
      exact .hostname isLink checked isPostgres
    next noLink =>
      rw [← pure_eq_ok.mp returned, isPostgres]
      exact .value (by simpa using noLink) checked isPostgres
  · intro isPattern
    cases isPattern with
    | hostname isLink checked isPostgres =>
        simp only [ofPattern, checked, isPostgres, isLink]
        rfl
    | value notLink checked isPostgres =>
        simp only [ofPattern, checked, isPostgres, notLink]
        rfl

/-! ## Containments -/

/-- The predicates of a containment: the template of a network is about the
values of an attribute or about the networks of servers, that of a text about
values. -/
inductive IsContainment (context : Context) (attr : Attribute)
    (relation : Containment) (literal : Literal) : Predicate → Prop where
  | network {template : Template} (type : attr.type = .scalar .inet)
      (found : networkTemplate context attr relation literal = .ok template) :
      IsContainment context attr relation literal { template }
  | supernet {target : ServertypeId} {template : Template}
      (type : attr.type = .supernet target)
      (found : networkTemplate context attr relation literal = .ok template) :
      IsContainment context attr relation literal
        { template, subject := .network }
  | text {text : String} {template : Template}
      (type : attr.type = .scalar .string) (isText : literal = .string text)
      (checked : requireInlinable text = .ok ())
      (found : textTemplate? context.dialect relation text = some template) :
      IsContainment context attr relation literal { template }

theorem ofContainment_eq_ok {relation : Containment} {literal : Literal}
    {predicate : Predicate} :
    ofContainment context attr relation literal = .ok predicate ↔
      IsContainment context attr relation literal predicate := by
  constructor
  · intro built
    unfold ofContainment at built
    split at built
    next type =>
      obtain ⟨template, found, returned⟩ := bind_eq_ok.mp built
      rw [← pure_eq_ok.mp returned]
      exact .network type found
    next type =>
      obtain ⟨template, found, returned⟩ := bind_eq_ok.mp built
      rw [← pure_eq_ok.mp returned]
      exact .supernet type found
    next text type =>
      obtain ⟨checked, chosen⟩ := check_bind_eq_ok.mp built
      split at chosen
      next template found =>
        rw [← pure_eq_ok.mp chosen]
        exact .text type rfl checked found
      next => simp at chosen
    next => simp at built
    next => simp at built
  · intro isContainment
    cases isContainment with
    | network type found | supernet type found =>
        simp only [ofContainment, type, found]
        rfl
    | text type isText checked found =>
        simp only [ofContainment, type, isText, checked, found]
        rfl

/-! ## Leaves -/

/-- The predicates of a leaf. -/
inductive IsLeaf (context : Context) (attr : Attribute) :
    Leaf → Predicate → Prop where
  | boolean (value : Bool) (isBoolean : attr.isBoolean = true) :
      IsLeaf context attr (.equals (.boolean value))
        { template := ⟨if attr.isSpecial then [.column] else []⟩,
            isNegated := !value }
  | equality {literal : Literal} {value : SqlValue}
      (notBoolean : attr.isBoolean = false)
      (bound : operand context attr literal =
        .ok (value, operandCast context attr)) :
      IsLeaf context attr (.equals literal)
        (comparedBy "=" value (operandCast context attr))
  | comparison {relation : Comparison} {literal : Literal} {value : SqlValue}
      (notBoolean : attr.isBoolean = false) (isOrdered : attr.isLink = false)
      (bound : operand context attr literal =
        .ok (value, operandCast context attr)) :
      IsLeaf context attr (.comparison relation literal)
        (comparedBy relation.symbol value (operandCast context attr))
  | pattern {text : String} {predicate : Predicate}
      (notBoolean : attr.isBoolean = false)
      (isPattern : IsPattern context attr text predicate) :
      IsLeaf context attr (.regexp text) predicate
  | presence (notBoolean : attr.isBoolean = false) :
      IsLeaf context attr .empty
        { template := ⟨[.column, .sql " IS NOT NULL"]⟩, isNegated := true }
  | containment {relation : Containment} {literal : Literal}
      {predicate : Predicate} (notBoolean : attr.isBoolean = false)
      (isContainment : IsContainment context attr relation literal predicate) :
      IsLeaf context attr (.containment relation literal) predicate

theorem ofLeaf_eq_ok {leaf : Leaf} {predicate : Predicate} :
    ofLeaf context attr leaf = .ok predicate ↔
      IsLeaf context attr leaf predicate := by
  constructor
  · intro built
    unfold ofLeaf at built
    split at built
    next isBoolean =>
      obtain ⟨value, rfl, rfl⟩ := ofBoolean_eq_ok built
      exact .boolean value isBoolean
    next noBoolean =>
      have notBoolean : attr.isBoolean = false := by simpa using noBoolean
      cases leaf with
      | equals literal =>
          obtain ⟨value, bound, rfl⟩ := ofEquality_eq_ok built
          exact .equality notBoolean bound
      | comparison relation literal =>
          obtain ⟨isOrdered, value, bound, rfl⟩ := ofComparison_eq_ok built
          exact .comparison notBoolean isOrdered bound
      | regexp text => exact .pattern notBoolean (ofPattern_eq_ok.mp built)
      | empty =>
          rw [← Except.ok.inj built]
          exact .presence notBoolean
      | containment relation literal =>
          exact .containment notBoolean (ofContainment_eq_ok.mp built)
  · intro isLeaf
    cases isLeaf with
    | boolean value isBoolean =>
        simp only [ofLeaf, isBoolean, if_true, ofBoolean]
    | equality notBoolean bound =>
        simp only [ofLeaf, notBoolean, Bool.false_eq_true, if_false,
          ofEquality, bound]
        rfl
    | comparison notBoolean isOrdered bound =>
        simp only [ofLeaf, notBoolean, Bool.false_eq_true, if_false,
          ofComparison, isOrdered, bound]
        rfl
    | pattern notBoolean isPattern =>
        simpa [ofLeaf, notBoolean] using ofPattern_eq_ok.mpr isPattern
    | presence notBoolean => simp [ofLeaf, notBoolean]
    | containment notBoolean isContainment =>
        simpa [ofLeaf, notBoolean] using ofContainment_eq_ok.mpr isContainment

end AttributeQuery.Predicate
