import AttributeQuery.Proofs.Success
import AttributeQuery.Query.Compilation

/-!
# Faults of filters

A filter compiles when every leaf of it has a predicate. Otherwise it fails with
the fault of the first leaf that has none, in the order written. Merging changes
nothing about that, although it binds the literals of a run only once the run
has ended: what ends a run is compiled after it.
-/

namespace AttributeQuery

/-- A query says something about an attribute: it has a filter for it with a
leaf. -/
def Query.Concerns (schema : Schema) (query : Query) (attr : Attribute) :
    Prop :=
  ∃ entry ∈ query, entry.2.leaves ≠ [] ∧
    schema.findAttribute? entry.1 = some attr

/-- A context in which runs of equalities are merged, or not. -/
def Context.withMerging (context : Context) (merging : Bool) : Context :=
  { context with options :=
    { context.options with mergeEqualities := merging } }

variable {context : Context} {attr : Attribute} {location : Location}

/-- Why a leaf has no predicate, if it has none. -/
def Leaf.fault? (context : Context) (attr : Attribute) (leaf : Leaf) :
    Option CompileError :=
  faultOf (Predicate.ofLeaf context attr leaf)

/-! ## Runs of equalities -/

/-- Literals are bound up to the first that cannot be. -/
theorem Predicate.faultOf_operands (castText : Option String)
    (literals : List Literal) :
    faultOf (operands context attr castText literals) =
      literals.findSome? fun literal =>
        faultOf (operand context attr literal) := by
  induction literals generalizing castText with
  | nil => rfl
  | cons literal rest ih =>
      rw [operands, findSome?_cons_eq_or]
      refine faultOf_bind fun bound => ?_
      rw [← ih bound.2]
      exact faultOf_bind_pure

namespace Filter

theorem ofLeaf_equals (notBoolean : attr.isBoolean = false)
    (literal : Literal) :
    Predicate.ofLeaf context attr (.equals literal) =
      Predicate.ofEquality context attr literal := by
  simp [Predicate.ofLeaf, notBoolean]

theorem eq_equals_of_mergeable? {filter : Filter} {literal : Literal}
    (mergeable : filter.mergeable? context attr = some literal) :
    filter = .equals literal ∧ attr.isBoolean = false := by
  unfold mergeable? at mergeable
  split at mergeable
  next =>
    split at mergeable
    next condition =>
      rw [← Option.some.inj mergeable]
      exact ⟨rfl, by simpa using (Bool.and_eq_true_iff.mp condition).2⟩
    next => simp at mergeable
  next => simp at mergeable

/-- A run of equalities fails as the first of them does. -/
theorem faultOf_compileRun {run : List Literal}
    (mergeable : run = [] ∨ attr.isBoolean = false) :
    faultOf (compileRun context attr location run) =
      run.findSome? fun literal =>
        Leaf.fault? context attr (.equals literal) := by
  match run with
  | [] => rfl
  | [literal] =>
      simp only [compileRun, faultOf_bind_pure, findSome?_cons_eq_or,
        List.findSome?_nil, Option.or_none, Leaf.fault?]
  | literal :: second :: rest =>
      have notBoolean : attr.isBoolean = false := by simpa using mergeable
      have each (literal : Literal) : Leaf.fault? context attr
          (.equals literal) =
          faultOf (Predicate.operand context attr literal) := by
        rw [Leaf.fault?, ofLeaf_equals notBoolean]
        exact faultOf_bind_pure
      simp only [each]
      rw [← Predicate.faultOf_operands none]
      exact faultOf_bind_pure.trans faultOf_bind_pure

/-! ## Filters -/

mutual

/-- A filter fails as its first leaf without a predicate does. -/
theorem faultOf_compile : (filter : Filter) →
    faultOf (filter.compile context attr location) =
      filter.leaves.findSome? (Leaf.fault? context attr)
  | .leaf single => by
      simp only [compile, leaves, faultOf_bind_pure, findSome?_cons_eq_or,
        List.findSome?_nil, Option.or_none, Leaf.fault?]
  | .not inner => by
      simp only [compile, leaves, faultOf_bind_pure, faultOf_compile inner]
  | .all [] => rfl
  | .all (child :: rest) => by
      simp only [compile, leaves, faultOf_bind_pure,
        faultOf_compileAll (child :: rest)]
  | .any [] => rfl
  | .any (child :: rest) => by
      simp only [compile, leaves, faultOf_bind_pure,
        faultOf_compileAny (child :: rest) (.inl rfl), List.findSome?_nil,
        Option.none_or]

theorem faultOf_compileAll : (children : List Filter) →
    faultOf (compileAll context attr location children) =
      (leavesOfAll children).findSome? (Leaf.fault? context attr)
  | [] => rfl
  | child :: rest => by
      rw [compileAll, leavesOfAll, List.findSome?_append,
        ← faultOf_compile child, ← faultOf_compileAll rest]
      exact faultOf_bind fun _ => faultOf_bind_pure

/-- After a run of equalities, a fault in the run comes before all faults of the
filters that follow. -/
theorem faultOf_compileAny : (children : List Filter) → {run : List Literal} →
    run = [] ∨ attr.isBoolean = false →
    faultOf (compileAny context attr location run children) =
      (run.findSome? fun literal =>
        Leaf.fault? context attr (.equals literal)).or
        ((leavesOfAll children).findSome? (Leaf.fault? context attr))
  | [], run, mergeable => by
      rw [compileAny, faultOf_compileRun mergeable]
      simp [leavesOfAll]
  | child :: rest, run, mergeable => by
      rw [compileAny, leavesOfAll, List.findSome?_append]
      split
      next literal isMerged =>
        obtain ⟨rfl, notBoolean⟩ := eq_equals_of_mergeable? isMerged
        rw [faultOf_compileAny rest (.inr notBoolean), List.findSome?_append,
          Option.or_assoc]
        simp [Filter.equals, leaves]
      next =>
        rw [← faultOf_compileRun mergeable, ← faultOf_compile child]
        refine faultOf_bind fun before => faultOf_bind fun condition => ?_
        rw [faultOf_bind_pure, faultOf_compileAny rest (.inl rfl)]
        rfl

end

/-- A filter compiles when each of its leaves has a predicate. -/
theorem compile_isOk (filter : Filter) :
    (filter.compile context attr location).isOk = filter.leaves.all fun leaf =>
      (Predicate.ofLeaf context attr leaf).isOk := by
  rw [Bool.eq_iff_iff, isOk_iff_faultOf, faultOf_compile,
    List.findSome?_eq_none_iff, List.all_eq_true]
  simp only [Leaf.fault?, isOk_iff_faultOf]

/-- A filter compiles exactly when all its leaves have predicates, and otherwise
fails with the fault of the first leaf that has none, whether equalities are
merged or not. -/
theorem compile_fails_at_first_fault (context : Context) (attr : Attribute)
    (location : Location) (filter : Filter) :
    ((∃ condition, filter.compile context attr location = .ok condition) ↔
      ∀ leaf ∈ filter.leaves, ∃ predicate,
        Predicate.ofLeaf context attr leaf = .ok predicate) ∧
    (∀ failure, filter.compile context attr location = .error failure ↔
      ∃ before leaf after, filter.leaves = before ++ leaf :: after ∧
        (∀ earlier ∈ before, ∃ predicate,
          Predicate.ofLeaf context attr earlier = .ok predicate) ∧
        Predicate.ofLeaf context attr leaf = .error failure) ∧
    ∀ merging failure,
      filter.compile (context.withMerging merging) attr location =
        .error failure ↔
        filter.compile context attr location = .error failure := by
  have sameFaults (merging : Bool) :
      faultOf (filter.compile (context.withMerging merging) attr location) =
        faultOf (filter.compile context attr location) := by
    -- predicates of leaves do not read whether equalities are merged
    rw [faultOf_compile, faultOf_compile]
    rfl
  refine ⟨?_, fun failure => ?_, fun merging failure => ?_⟩
  · rw [← faultOf_eq_none, faultOf_compile, List.findSome?_eq_none_iff]
    simp only [Leaf.fault?, faultOf_eq_none]
  · rw [← faultOf_eq_some, faultOf_compile, List.findSome?_eq_some_iff]
    simp only [Leaf.fault?, faultOf_eq_none, faultOf_eq_some]
    constructor
    · rintro ⟨before, leaf, after, split, failed, succeed⟩
      exact ⟨before, leaf, after, split, succeed, failed⟩
    · rintro ⟨before, leaf, after, split, succeed, failed⟩
      exact ⟨before, leaf, after, split, failed, succeed⟩
  · rw [← faultOf_eq_some, ← faultOf_eq_some, sameFaults]

/-- The literal with a quote is refused, and not the pattern that ends the run
of equalities with which it may be merged. -/
theorem compile_fails_at_first_fault_quote :
    let attr : Attribute := { id := "os", type := .scalar .string }
    let context : Context :=
      { schema := ⟨["vm"], [attr], [⟨"vm", "os", none⟩]⟩
        options := {}, layout := {}, servertypes := ["vm"], hostnames := {} }
    let filter : Filter :=
      .not (.any [.equals (.string "bookworm"), .equals (.string "it's"),
        .leaf (.regexp "'"), .equals (.boolean true)])
    ∀ merging,
      filter.compile (context.withMerging merging) attr (.column "server.os") =
      .error (.unencodableValue (.text "it's" .containsQuote)) := by
  intro attr context filter merging
  obtain ⟨-, isFirst, isSame⟩ :=
    compile_fails_at_first_fault context attr (.column "server.os") filter
  rw [isSame, isFirst]
  refine ⟨[.equals (.string "bookworm")], .equals (.string "it's"),
    [.regexp "'", .equals (.boolean true)], rfl, fun earlier member => ?_, rfl⟩
  rw [List.mem_singleton.mp member]
  exact ⟨_, rfl⟩

end Filter

end AttributeQuery
