import AttributeQuery.Proofs.Query.Faults

/-!
# Combinations of located predicates

The condition of a filter is put together from predicates at one location by
negating and joining. What holds of these predicates and is kept by negating and
joining holds of the condition, whether equalities are merged or not. So does
what holds of one of the predicates only, if negating and joining pass it on.
-/

namespace AttributeQuery

/-- A property that empty combinations have and that negating and joining
keep. -/
structure Condition.IsKept (Holds : Condition → Prop) : Prop where
  always : Holds Filter.always
  never : Holds Filter.never
  negate : ∀ {condition : Condition}, Holds condition → Holds condition.negate
  join : ∀ {operator : String} {conditions : List Condition},
    operator = "AND" ∨ operator = "OR" → conditions ≠ [] →
    (∀ condition ∈ conditions, Holds condition) →
    Holds (Condition.join operator conditions)

/-- A property that negating passes on, and joining from one of several
conditions if each of them has another property, which is kept. -/
structure Condition.IsPassedOn (Each Shows : Condition → Prop) : Prop where
  kept : Condition.IsKept Each
  negate : ∀ {condition : Condition}, Shows condition → Shows condition.negate
  join : ∀ {operator : String} {conditions : List Condition},
    operator = "AND" ∨ operator = "OR" →
    (∀ condition ∈ conditions, Each condition) →
    (∃ condition ∈ conditions, Shows condition) →
    Shows (Condition.join operator conditions)

namespace Filter

variable {context : Context} {attr : Attribute} {location : Location}
variable {Holds : Condition → Prop} {leaves : List Leaf}

/-- A property that the predicates of some leaves have at a location, and those
of lists of values of which each is the literal of such a leaf. -/
structure LeavesHold (context : Context) (attr : Attribute)
    (location : Location) (Holds : Condition → Prop) (leaves : List Leaf) :
    Prop where
  leaf : ∀ {leaf : Leaf} {predicate : Predicate}, leaf ∈ leaves →
    Predicate.ofLeaf context attr leaf = .ok predicate →
    Holds (location.apply predicate)
  membership : ∀ {first : Literal} {rest : List Literal}
    {predicate : Predicate},
    (∀ literal ∈ first :: rest, .equals literal ∈ leaves) →
    Predicate.ofMembership context attr (first :: rest) = .ok predicate →
    Holds (location.apply predicate)

theorem emptyAll_holds (kept : Condition.IsKept Holds) :
    Holds (emptyAll context) := by
  unfold emptyAll
  cases context.options.emptyAll with
  | vacuous => exact kept.always
  | unsatisfiable => exact kept.never

/-- A run of equalities has a condition if there is a literal in it. -/
theorem compileRun_holds
    (leavesHold : LeavesHold context attr location Holds leaves)
    {run : List Literal} (areLeaves : ∀ literal ∈ run, .equals literal ∈ leaves)
    {conditions : List Condition}
    (compiled : compileRun context attr location run = .ok conditions) :
    (run ≠ [] → conditions ≠ []) ∧ ∀ condition ∈ conditions,
    Holds condition := by
  match run with
  | [] =>
      obtain rfl := Except.ok.inj compiled
      exact ⟨fun isSome => absurd rfl isSome, nofun⟩
  | [literal] =>
      obtain ⟨predicate, built, returned⟩ := bind_eq_ok.mp compiled
      rw [← pure_eq_ok.mp returned]
      have holds := leavesHold.leaf (areLeaves literal List.mem_cons_self) built
      exact ⟨by simp, List.forall_mem_singleton.mpr holds⟩
  | first :: second :: rest =>
      obtain ⟨predicate, built, returned⟩ := bind_eq_ok.mp compiled
      rw [← pure_eq_ok.mp returned]
      exact ⟨by simp,
        List.forall_mem_singleton.mpr (leavesHold.membership areLeaves built)⟩

mutual

/-- What holds of the leaves of a filter holds of its condition. -/
theorem compile_holds (kept : Condition.IsKept Holds)
    (leavesHold : LeavesHold context attr location Holds leaves) :
    ∀ (filter : Filter) {condition : Condition}, filter.leaves ⊆ leaves →
    filter.compile context attr location = .ok condition → Holds condition
  | .leaf single, condition, areLeaves, compiled => by
      obtain ⟨predicate, built, returned⟩ := bind_eq_ok.mp compiled
      rw [← pure_eq_ok.mp returned]
      exact leavesHold.leaf (areLeaves List.mem_cons_self) built
  | .not inner, condition, areLeaves, compiled => by
      obtain ⟨positive, compiledInner, returned⟩ := bind_eq_ok.mp compiled
      rw [← pure_eq_ok.mp returned]
      exact kept.negate
        (compile_holds kept leavesHold inner areLeaves compiledInner)
  | .all [], condition, _, compiled => by
      rw [← Except.ok.inj compiled]
      exact emptyAll_holds kept
  | .all (child :: rest), condition, areLeaves, compiled => by
      obtain ⟨conditions, compiledAll, returned⟩ := bind_eq_ok.mp compiled
      rw [← pure_eq_ok.mp returned]
      obtain ⟨isSome, each⟩ :=
        compileAll_holds kept leavesHold (child :: rest) areLeaves compiledAll
      exact kept.join (.inl rfl) (isSome (by simp)) each
  | .any [], condition, _, compiled => by
      rw [← Except.ok.inj compiled]
      exact kept.never
  | .any (child :: rest), condition, areLeaves, compiled => by
      obtain ⟨conditions, compiledAny, returned⟩ := bind_eq_ok.mp compiled
      rw [← pure_eq_ok.mp returned]
      obtain ⟨isSome, each⟩ :=
        compileAny_holds kept leavesHold (child :: rest)
          (by simp) areLeaves compiledAny
      exact kept.join (.inr rfl) (isSome (.inr (by simp))) each

theorem compileAll_holds (kept : Condition.IsKept Holds)
    (leavesHold : LeavesHold context attr location Holds leaves) :
    ∀ (children : List Filter) {conditions : List Condition},
    leavesOfAll children ⊆ leaves → compileAll context attr location children =
      .ok conditions →
    (children ≠ [] → conditions ≠ []) ∧ ∀ condition ∈ conditions,
    Holds condition
  | [], conditions, _, compiled => by
      rw [← Except.ok.inj compiled]
      exact ⟨fun isSome => absurd rfl isSome, nofun⟩
  | child :: rest, conditions, areLeaves, compiled => by
      obtain ⟨first, compiledFirst, later⟩ := bind_eq_ok.mp compiled
      obtain ⟨others, compiledRest, returned⟩ := bind_eq_ok.mp later
      rw [← pure_eq_ok.mp returned]
      obtain ⟨ofChild, ofRest⟩ := List.append_subset.mp areLeaves
      exact ⟨by simp, List.forall_mem_cons.mpr
        ⟨compile_holds kept leavesHold child ofChild compiledFirst,
          (compileAll_holds kept leavesHold rest ofRest compiledRest).2⟩⟩

theorem compileAny_holds (kept : Condition.IsKept Holds)
    (leavesHold : LeavesHold context attr location Holds leaves) :
    ∀ (children : List Filter) {run : List Literal}
    {conditions : List Condition}, (∀ literal ∈ run, .equals literal ∈ leaves) →
    leavesOfAll children ⊆ leaves →
    compileAny context attr location run children = .ok conditions →
    (run ≠ [] ∨ children ≠ [] → conditions ≠ []) ∧ ∀ condition ∈ conditions,
    Holds condition
  | [], run, conditions, areLiterals, _, compiled => by
      rw [compileAny] at compiled
      obtain ⟨isSome, each⟩ := compileRun_holds leavesHold areLiterals compiled
      exact ⟨fun given => isSome (given.resolve_right (by simp)), each⟩
  | child :: rest, run, conditions, areLiterals, areLeaves, compiled => by
      rw [compileAny] at compiled
      obtain ⟨ofChild, ofRest⟩ := List.append_subset.mp areLeaves
      split at compiled
      next literal mergeable =>
        -- the literal is put at the end of the run, which is then not empty
        obtain ⟨rfl, -⟩ := eq_equals_of_mergeable? mergeable
        have isLeaf : .equals literal ∈ leaves := ofChild List.mem_cons_self
        have areExtended : ∀ other ∈ run ++ [literal], .equals other ∈ leaves :=
          List.forall_mem_append.mpr
            ⟨areLiterals, List.forall_mem_singleton.mpr isLeaf⟩
        obtain ⟨isSome, each⟩ :=
          compileAny_holds kept leavesHold rest areExtended ofRest compiled
        exact ⟨fun _ => isSome (.inl (by simp)), each⟩
      next =>
        obtain ⟨before, compiledRun, later⟩ := bind_eq_ok.mp compiled
        obtain ⟨first, compiledFirst, others⟩ := bind_eq_ok.mp later
        obtain ⟨after, compiledRest, returned⟩ := bind_eq_ok.mp others
        rw [← pure_eq_ok.mp returned]
        refine ⟨by simp,
          List.forall_mem_append.mpr ⟨?_, List.forall_mem_cons.mpr ⟨?_, ?_⟩⟩⟩
        · exact (compileRun_holds leavesHold areLiterals compiledRun).2
        · exact compile_holds kept leavesHold child ofChild compiledFirst
        · exact (compileAny_holds kept leavesHold rest
            (by simp) ofRest compiledRest).2

end

/-! ## One leaf -/

variable {Each Shows : Condition → Prop} {leaf : Leaf}

/-- A property that the predicate of a leaf has at a location, and so has that
of each list of values with its literal, if the leaf is an equality. -/
structure LeafShows (context : Context) (attr : Attribute) (location : Location)
    (Shows : Condition → Prop) (leaf : Leaf) : Prop where
  single : ∀ {predicate : Predicate},
    Predicate.ofLeaf context attr leaf = .ok predicate →
    Shows (location.apply predicate)
  membership : ∀ {literal : Literal} {literals : List Literal}
    {predicate : Predicate}, leaf = .equals literal → literal ∈ literals →
    Predicate.ofMembership context attr literals = .ok predicate →
    Shows (location.apply predicate)

/-- A run shows what one of its equalities does. -/
theorem compileRun_shows
    (leafShows : LeafShows context attr location Shows leaf) {literal : Literal}
    (isEquality : leaf = .equals literal) {run : List Literal}
    (inRun : literal ∈ run) {conditions : List Condition}
    (compiled : compileRun context attr location run = .ok conditions) :
    ∃ condition ∈ conditions, Shows condition := by
  match run with
  | [] => cases inRun
  | [single] =>
      obtain ⟨predicate, built, returned⟩ := bind_eq_ok.mp compiled
      rw [← pure_eq_ok.mp returned]
      rw [← List.mem_singleton.mp inRun, ← isEquality] at built
      exact ⟨_, List.mem_cons_self, leafShows.single built⟩
  | first :: second :: rest =>
      obtain ⟨predicate, built, returned⟩ := bind_eq_ok.mp compiled
      rw [← pure_eq_ok.mp returned]
      exact ⟨_, List.mem_cons_self, leafShows.membership isEquality inRun built⟩

mutual

/-- What one leaf of a filter shows its condition shows. -/
theorem compile_shows (passedOn : Condition.IsPassedOn Each Shows)
    (leavesHold : LeavesHold context attr location Each leaves)
    (leafShows : LeafShows context attr location Shows leaf) :
    ∀ (filter : Filter) {condition : Condition}, leaf ∈ filter.leaves →
    filter.leaves ⊆ leaves →
    filter.compile context attr location = .ok condition → Shows condition
  | .leaf single, condition, isLeaf, _, compiled => by
      obtain ⟨predicate, built, returned⟩ := bind_eq_ok.mp compiled
      rw [← pure_eq_ok.mp returned]
      rw [← List.mem_singleton.mp isLeaf] at built
      exact leafShows.single built
  | .not inner, condition, isLeaf, areLeaves, compiled => by
      obtain ⟨positive, compiledInner, returned⟩ := bind_eq_ok.mp compiled
      rw [← pure_eq_ok.mp returned]
      exact passedOn.negate
        (compile_shows passedOn leavesHold leafShows inner isLeaf areLeaves
          compiledInner)
  | .all [], condition, isLeaf, _, compiled => by cases isLeaf
  | .all (child :: rest), condition, isLeaf, areLeaves, compiled => by
      obtain ⟨conditions, compiledAll, returned⟩ := bind_eq_ok.mp compiled
      rw [← pure_eq_ok.mp returned]
      exact passedOn.join (.inl rfl)
        (compileAll_holds passedOn.kept leavesHold (child :: rest) areLeaves
          compiledAll).2
        (compileAll_shows passedOn leavesHold leafShows (child :: rest) isLeaf
          areLeaves compiledAll)
  | .any [], condition, isLeaf, _, compiled => by cases isLeaf
  | .any (child :: rest), condition, isLeaf, areLeaves, compiled => by
      obtain ⟨conditions, compiledAny, returned⟩ := bind_eq_ok.mp compiled
      rw [← pure_eq_ok.mp returned]
      exact passedOn.join (.inr rfl)
        (compileAny_holds passedOn.kept leavesHold (child :: rest)
          (by simp) areLeaves compiledAny).2
        (compileAny_shows passedOn leavesHold leafShows (child :: rest)
          (.inr isLeaf) areLeaves compiledAny)

theorem compileAll_shows (passedOn : Condition.IsPassedOn Each Shows)
    (leavesHold : LeavesHold context attr location Each leaves)
    (leafShows : LeafShows context attr location Shows leaf) :
    ∀ (children : List Filter) {conditions : List Condition},
    leaf ∈ leavesOfAll children → leavesOfAll children ⊆ leaves →
    compileAll context attr location children = .ok conditions →
    ∃ condition ∈ conditions, Shows condition
  | [], conditions, isLeaf, _, compiled => by cases isLeaf
  | child :: rest, conditions, isLeaf, areLeaves, compiled => by
      obtain ⟨first, compiledFirst, later⟩ := bind_eq_ok.mp compiled
      obtain ⟨others, compiledRest, returned⟩ := bind_eq_ok.mp later
      rw [← pure_eq_ok.mp returned, List.exists_mem_cons_iff]
      obtain ⟨ofChild, ofRest⟩ := List.append_subset.mp areLeaves
      refine (List.mem_append.mp isLeaf).imp (fun inChild => ?_)
        fun inRest => ?_
      · exact compile_shows passedOn leavesHold leafShows child inChild
          ofChild compiledFirst
      · exact compileAll_shows passedOn leavesHold leafShows rest inRest
          ofRest compiledRest

/-- The leaf may also stand in the run before the filters left. -/
theorem compileAny_shows (passedOn : Condition.IsPassedOn Each Shows)
    (leavesHold : LeavesHold context attr location Each leaves)
    (leafShows : LeafShows context attr location Shows leaf) :
    ∀ (children : List Filter) {run : List Literal}
      {conditions : List Condition},
    (∃ literal ∈ run, leaf = .equals literal) ∨ leaf ∈ leavesOfAll children →
    leavesOfAll children ⊆ leaves →
    compileAny context attr location run children = .ok conditions →
    ∃ condition ∈ conditions, Shows condition
  | [], run, conditions, isLeaf, _, compiled => by
      rw [compileAny] at compiled
      obtain ⟨literal, inRun, isEquality⟩ :=
        isLeaf.resolve_right List.not_mem_nil
      exact compileRun_shows leafShows isEquality inRun compiled
  | child :: rest, run, conditions, isLeaf, areLeaves, compiled => by
      rw [compileAny] at compiled
      obtain ⟨ofChild, ofRest⟩ := List.append_subset.mp areLeaves
      split at compiled
      next merged mergeable =>
        -- an equality that is merged goes over to the run
        obtain ⟨rfl, -⟩ := eq_equals_of_mergeable? mergeable
        refine compileAny_shows passedOn leavesHold leafShows rest ?_
          ofRest compiled
        rcases isLeaf with ⟨literal, inRun, isEquality⟩ | isLeaf
        · exact .inl ⟨literal, List.mem_append_left _ inRun, isEquality⟩
        · refine (List.mem_append.mp isLeaf).imp (fun inChild => ?_) id
          exact ⟨merged, List.mem_append_right _ List.mem_cons_self,
            List.mem_singleton.mp inChild⟩
      next =>
        obtain ⟨before, compiledRun, later⟩ := bind_eq_ok.mp compiled
        obtain ⟨first, compiledFirst, others⟩ := bind_eq_ok.mp later
        obtain ⟨after, compiledRest, returned⟩ := bind_eq_ok.mp others
        rw [← pure_eq_ok.mp returned]
        simp only [List.mem_append, List.mem_cons, or_and_right, exists_or,
          exists_eq_left]
        rcases isLeaf with ⟨literal, inRun, isEquality⟩ | isLeaf
        · exact .inl (compileRun_shows leafShows isEquality inRun compiledRun)
        · refine .inr
            ((List.mem_append.mp isLeaf).imp (fun inChild => ?_)
              fun inRest => ?_)
          · exact compile_shows passedOn leavesHold leafShows child inChild
              ofChild compiledFirst
          · exact compileAny_shows passedOn leavesHold leafShows rest
              (.inr inRest) ofRest compiledRest

end

end Filter

end AttributeQuery
