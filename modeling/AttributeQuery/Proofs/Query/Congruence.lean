import AttributeQuery.Proofs.Filter.Exchange
import AttributeQuery.Proofs.Query.Logic

/-!
# Filters with other literals

The condition of a filter depends on the predicates of its leaves alone. If the
literals of a filter are changed, or it is compiled in another context, and each
leaf keeps its predicate by that, then the filter keeps its condition or its
error. This holds for merged runs of equalities too: they are made from the
operands that the predicates of the equalities determine.
-/

namespace AttributeQuery

variable {context other : Context} {attr : Attribute}
  {change : Literal → Literal}

/-! ## Operands -/

namespace Predicate

/-- A comparison shows the value it compares with, and its cast. -/
theorem comparedBy_injective {symbol : String} {value otherValue : SqlValue}
    {castText otherCast : Option String}
    (same : comparedBy symbol value castText =
      comparedBy symbol otherValue otherCast) :
    value = otherValue ∧ castText = otherCast := by
  simp only [comparedBy, Predicate.mk.injEq, Template.mk.injEq,
    List.cons_append, List.nil_append, List.cons.injEq,
    TemplatePiece.param.injEq, true_and, and_true] at same
  apply And.intro same.1
  cases castText with
  | none =>
      cases otherCast with
      | none => rfl
      | some text => simp [Template.castPieces] at same
  | some text =>
      cases otherCast with
      | none => simp [Template.castPieces] at same
      | some otherText => simpa [Template.castPieces] using same.2

/-- The predicate of an equality determines its operand, or why there is
none. -/
theorem operand_eq_of_ofEquality_eq {literal otherLiteral : Literal}
    (same : ofEquality other attr otherLiteral =
      ofEquality context attr literal) :
    operand other attr otherLiteral = operand context attr literal := by
  unfold ofEquality at same
  cases bound : operand context attr literal with
  | error failure =>
      cases boundOther : operand other attr otherLiteral with
      | error otherFailure =>
          rw [bound, boundOther] at same
          injection same with sameFailure
          rw [sameFailure]
      | ok otherOperand =>
          rw [bound, boundOther] at same
          cases same
  | ok first =>
      cases boundOther : operand other attr otherLiteral with
      | error otherFailure =>
          rw [bound, boundOther] at same
          cases same
      | ok second =>
          rw [bound, boundOther] at same
          have equal := comparedBy_injective (Except.ok.inj same)
          rw [Prod.ext equal.1 equal.2]

/-- Literals with the same operands are bound as the same list. -/
theorem operands_map {literals : List Literal}
    (same : ∀ literal ∈ literals,
      operand other attr (change literal) = operand context attr literal)
    (castText : Option String) :
    operands other attr castText (literals.map change) =
      operands context attr castText literals := by
  induction literals generalizing castText with
  | nil => rfl
  | cons literal rest ih =>
      simp only [List.map_cons, operands]
      rw [same literal List.mem_cons_self]
      have sameRest (castText : Option String) :=
        ih (fun literal member => same literal (List.mem_cons_of_mem _ member))
          castText
      simp only [sameRest]

theorem ofMembership_map {literals : List Literal}
    (same : ∀ literal ∈ literals,
      operand other attr (change literal) = operand context attr literal) :
    ofMembership other attr (literals.map change) =
      ofMembership context attr literals := by
  unfold ofMembership
  rw [operands_map same]

end Predicate

/-! ## Filters -/

namespace Filter

/-- A leaf has the same predicate, or the same fault, once its literal is
changed and it is compiled in another context. -/
def KeepsPredicate (context other : Context) (attr : Attribute)
    (change : Literal → Literal) (leaf : Leaf) : Prop :=
  Predicate.ofLeaf other attr (leaf.mapLiteral change) =
    Predicate.ofLeaf context attr leaf

variable {location : Location}

/-- Equalities that keep their predicates have the same operands. -/
theorem KeepsPredicate.operand (notBoolean : attr.isBoolean = false)
    {literal : Literal}
    (keeps : KeepsPredicate context other attr change (.equals literal)) :
    Predicate.operand other attr (change literal) =
      Predicate.operand context attr literal := by
  apply Predicate.operand_eq_of_ofEquality_eq
  rw [← ofLeaf_equals notBoolean, ← ofLeaf_equals notBoolean]
  exact keeps

theorem compileRun_map {run : List Literal}
    (mergeable : run = [] ∨ attr.isBoolean = false)
    (keep : ∀ literal ∈ run,
      KeepsPredicate context other attr change (.equals literal)) :
    compileRun other attr location (run.map change) =
      compileRun context attr location run := by
  match run with
  | [] => rfl
  | [literal] =>
      have same := keep literal List.mem_cons_self
      unfold KeepsPredicate at same
      simp only [Leaf.mapLiteral] at same
      simp only [List.map_cons, List.map_nil, compileRun, same]
  | literal :: second :: rest =>
      have notBoolean : attr.isBoolean = false := by simpa using mergeable
      have same := Predicate.ofMembership_map fun literal member =>
        (keep literal member).operand notBoolean
      simp only [List.map_cons] at same
      simp only [List.map_cons, compileRun, same]

/-- Changing literals makes no equality out of another filter, and keeps those
there are. -/
theorem mergeable?_mapLiterals (sameOptions : other.options = context.options)
    (filter : Filter) :
    (filter.mapLiterals change).mergeable? other attr =
      (filter.mergeable? context attr).map change := by
  cases filter with
  | leaf single =>
      cases single with
      | equals literal =>
          simp only [mapLiterals, Leaf.mapLiteral, mergeable?, sameOptions]
          split <;> rfl
      | comparison | regexp | empty | containment => rfl
  | not | all | any => rfl

mutual

/-- A filter whose leaves keep their predicates keeps its condition. -/
theorem compile_mapLiterals (sameOptions : other.options = context.options) :
    (filter : Filter) →
    (∀ leaf ∈ filter.leaves, KeepsPredicate context other attr change leaf) →
    (filter.mapLiterals change).compile other attr location =
      filter.compile context attr location
  | .leaf single, keep => by
      have same := keep single (by simp [leaves])
      unfold KeepsPredicate at same
      simp only [mapLiterals, compile, same]
  | .not inner, keep => by
      simp only [mapLiterals, compile]
      rw [compile_mapLiterals sameOptions inner keep]
  | .all [], keep => by
      simp only [mapLiterals, mapLiteralsOfAll, compile, emptyAll, sameOptions]
  | .all (child :: rest), keep => by
      have same := compileAll_mapLiterals sameOptions (child :: rest) keep
      rw [mapLiteralsOfAll] at same
      simp only [mapLiterals, mapLiteralsOfAll, compile, same]
  | .any [], keep => rfl
  | .any (child :: rest), keep => by
      have same :=
        compileAny_mapLiterals sameOptions (child :: rest) (.inl rfl)
          (by simp) keep
      rw [mapLiteralsOfAll, List.map_nil] at same
      simp only [mapLiterals, mapLiteralsOfAll, compile, same]

theorem compileAll_mapLiterals (sameOptions : other.options = context.options) :
    (children : List Filter) →
    (∀ leaf ∈ leavesOfAll children,
      KeepsPredicate context other attr change leaf) →
    compileAll other attr location (mapLiteralsOfAll change children) =
      compileAll context attr location children
  | [], keep => rfl
  | child :: rest, keep => by
      simp only [leavesOfAll, List.mem_append] at keep
      simp only [mapLiteralsOfAll, compileAll]
      rw [compile_mapLiterals sameOptions child fun leaf member =>
        keep leaf (.inl member),
        compileAll_mapLiterals sameOptions rest fun leaf member =>
          keep leaf (.inr member)]

/-- The filters of a disjunction, after a run of equalities, keep their
conditions. -/
theorem compileAny_mapLiterals (sameOptions : other.options = context.options) :
    (children : List Filter) → {run : List Literal} → run = [] ∨
      attr.isBoolean = false →
    (∀ literal ∈ run,
      KeepsPredicate context other attr change (.equals literal)) →
    (∀ leaf ∈ leavesOfAll children,
      KeepsPredicate context other attr change leaf) →
    compileAny other attr location (run.map change)
      (mapLiteralsOfAll change children) =
      compileAny context attr location run children
  | [], run, notBoolean, keepRun, keep => compileRun_map notBoolean keepRun
  | child :: rest, run, notBoolean, keepRun, keep => by
      simp only [leavesOfAll, List.mem_append] at keep
      have keepRest := fun leaf member => keep leaf (.inr member)
      rw [mapLiteralsOfAll, compileAny, compileAny,
        mergeable?_mapLiterals sameOptions]
      cases mergeable : child.mergeable? context attr with
      | some literal =>
          obtain ⟨rfl, isNotBoolean⟩ := eq_equals_of_mergeable? mergeable
          have keepLiteral :=
            keep (.equals literal) (.inl (by simp [Filter.equals, leaves]))
          have keepExtended : ∀ equated ∈ run ++ [literal],
              KeepsPredicate context other attr change (.equals equated) := by
            intro equated member
            rcases List.mem_append.mp member with before | isLast
            · exact keepRun equated before
            · rw [List.mem_singleton.mp isLast]
              exact keepLiteral
          have extended :=
            compileAny_mapLiterals sameOptions rest
              (.inr isNotBoolean) keepExtended keepRest
          rw [List.map_append] at extended
          exact extended
      | none =>
          have sameRest : compileAny other attr location []
              (mapLiteralsOfAll change rest) =
              compileAny context attr location [] rest :=
            compileAny_mapLiterals sameOptions rest (.inl rfl)
              (by simp) keepRest
          simp only [Option.map_none]
          rw [compileRun_map notBoolean keepRun,
            compile_mapLiterals sameOptions child fun leaf member =>
              keep leaf (.inl member),
            sameRest]

end

/-- A filter has the same condition in another context if its leaves have the
same predicates there. -/
theorem compile_congr (sameOptions : other.options = context.options)
    {filter : Filter} (same : ∀ leaf ∈ filter.leaves,
      Predicate.ofLeaf other attr leaf = Predicate.ofLeaf context attr leaf) :
    filter.compile other attr location =
      filter.compile context attr location := by
  have unchanged : (filter.mapLiterals id).compile other attr location =
      filter.compile context attr location := by
    apply compile_mapLiterals sameOptions filter
    intro leaf member
    rw [KeepsPredicate, Leaf.mapLiteral_id]
    exact same leaf member
  rw [mapLiterals_id] at unchanged
  exact unchanged

end Filter

end AttributeQuery
