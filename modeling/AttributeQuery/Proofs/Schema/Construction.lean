import AttributeQuery.Proofs.Schema.Bindings
import AttributeQuery.Proofs.Sorted

/-!
# Construction of schemas

A schema is built from declarations exactly when they are consistent with one
another, in whatever order they are given. The schema then holds what was
declared and nothing else, in ascending order. Each of the three loops that
declare something inserts what is given unless its key is taken, so one lemma
says what all of them do.
-/

namespace AttributeQuery

/-! ## Consistent declarations -/

/-- An attribute with an identifier is declared, and its type is of some
kind. -/
def Declaration.Declares (declarations : List Declaration) (id : AttributeId)
    (IsKind : AttributeType → Prop) : Prop :=
  ∃ attr ∈ attributes declarations, attr.id = id ∧ IsKind attr.type

/-- Declarations that fit together: identifiers are distinct, whatever is named
is declared and of the right kind, and no attribute is bound twice to a
servertype. -/
structure Declaration.AreConsistent (declarations : List Declaration) :
    Prop where
  servertypes : (servertypes declarations).Nodup
  attributes : ((attributes declarations).map (·.id)).Nodup
  special : ∀ attr ∈ Declaration.attributes declarations,
    attr.isSpecial = true →
    ∃ domain, attr.type = .scalar domain
  targets : ∀ attr ∈ Declaration.attributes declarations, ∀ target,
    attr.type.target? = some target →
    target ∈ Declaration.servertypes declarations
  reversed : ∀ attr ∈ Declaration.attributes declarations, ∀ id,
    attr.type.reversed? = some id →
    Declares declarations id (·.isHostname = true)
  bound : ∀ binding ∈ bindings declarations,
    binding.servertype ∈ Declaration.servertypes declarations ∧
      Declares declarations binding.attributeId fun _ => True
  links : ∀ binding ∈ bindings declarations, ∀ via,
    binding.relatedVia = some via →
    via ≠ binding.attributeId ∧ Declares declarations via (·.isLink = true)
  pairs : ((bindings declarations).map Binding.pair).Nodup

namespace Schema

variable {schema next : Schema} {id : AttributeId}

/-! ## Loops -/

/-- A loop that inserts what is given, each under a key that is not taken
yet. -/
theorem foldlM_insert_eq_ok {α Key : Type}
    {step : Schema → α → Except SchemaError Schema} (put : List α → Schema)
    (key : α → Key) (order : α → String) (Fits : α → Prop)
    (step_eq_ok : ∀ values value next, step (put values) value = .ok next ↔
      Fits value ∧ key value ∉ values.map key ∧
        next = put (Sorted.insertBy order value values))
    (given values : List α) :
    given.foldlM step (put values) = .ok next ↔
      (∀ value ∈ given, Fits value) ∧ (given.map key).Nodup ∧
        (∀ value ∈ given, key value ∉ values.map key) ∧
        next = put (Sorted.insertAll order given values) := by
  induction given generalizing values with
  | nil => simp [Sorted.insertAll, pure, Except.pure, eq_comm]
  | cons value rest ih =>
      rw [List.foldlM_cons, bind_eq_ok]
      have keys : ∀ other,
          key other ∈ (Sorted.insertBy order value values).map key ↔
          key other = key value ∨ key other ∈ values.map key := by
        intro other
        rw [((Sorted.insertBy_perm order value values).map key).mem_iff,
          List.map_cons, List.mem_cons]
      constructor
      · rintro ⟨inserted, stepped, later⟩
        obtain ⟨fits, isFree, rfl⟩ :=
          (step_eq_ok values value inserted).mp stepped
        obtain ⟨fitRest, distinct, areFree, rfl⟩ := (ih _).mp later
        simp only [keys, not_or] at areFree
        refine ⟨List.forall_mem_cons.mpr ⟨fits, fitRest⟩, ?_,
          List.forall_mem_cons.mpr
            ⟨isFree, fun other member => (areFree other member).2⟩, rfl⟩
        refine List.nodup_cons.mpr ⟨fun member => ?_, distinct⟩
        obtain ⟨other, isLater, same⟩ := List.mem_map.mp member
        exact (areFree other isLater).1 same
      · rintro ⟨fit, distinct, areFree, rfl⟩
        obtain ⟨isFree, areFreeRest⟩ := List.forall_mem_cons.mp areFree
        obtain ⟨fits, fitRest⟩ := List.forall_mem_cons.mp fit
        obtain ⟨isNew, distinctRest⟩ := List.nodup_cons.mp distinct
        refine ⟨_, (step_eq_ok values value _).mpr ⟨fits, isFree, rfl⟩,
          (ih _).mpr ⟨fitRest, distinctRest, fun other member => ?_, rfl⟩⟩
        rw [keys, not_or]
        refine ⟨fun same => isNew ?_, areFreeRest other member⟩
        exact same ▸ List.mem_map_of_mem member

/-! ## Single declarations -/

theorem requireServertype_eq_ok {servertype : ServertypeId} :
    schema.requireServertype servertype = .ok () ↔
      servertype ∈ schema.servertypes := by
  simp [requireServertype, hasServertype]

theorem addServertype_eq_ok {servertype : ServertypeId} :
    schema.addServertype servertype = .ok next ↔
      servertype ∉ schema.servertypes ∧ next = { schema with
        servertypes :=
          Sorted.insertBy (fun id => id) servertype schema.servertypes } := by
  unfold addServertype hasServertype
  split
  next isDeclared =>
    simpa using
      fun notDeclared => absurd isDeclared (by simpa using notDeclared)
  next notDeclared => simp at notDeclared; simp [notDeclared, eq_comm]

theorem addAttribute_eq_ok {attr : Attribute} :
    schema.addAttribute attr = .ok next ↔
      attr.id ∉ schema.attributes.map (·.id) ∧ next = { schema with
        attributes :=
          Sorted.insertBy (fun attr => attr.id) attr schema.attributes } := by
  unfold addAttribute
  split
  next other found =>
    have isTaken : attr.id ∈ schema.attributes.map (·.id) :=
      List.mem_map.mpr
        ⟨other, mem_of_findAttribute?
          found, by simpa using List.find?_some found⟩
    simp [isTaken]
  next notFound =>
    have isFree : attr.id ∉ schema.attributes.map (·.id) := by
      have noOther := List.find?_eq_none.mp notFound
      simpa [eq_comm] using noOther
    simp [isFree, eq_comm]

/-- A check of an attribute succeeds when it is not both special and a link, and
what its type refers to is declared. -/
theorem checkAttribute_eq_ok (distinct : schema.HasDistinctAttributes)
    {attr : Attribute} :
    schema.checkAttribute attr = .ok () ↔
      (attr.isSpecial = true → ∃ domain, attr.type = .scalar domain) ∧
      (∀ target, attr.type.target? = some target →
        target ∈ schema.servertypes) ∧
      ∀ reversed, attr.type.reversed? = some reversed →
        ∃ other ∈ schema.attributes, other.id = reversed ∧
          other.type.isHostname = true := by
  have isScalar : (∃ domain, attr.type = .scalar domain) ↔
      attr.isLink = false := by
    cases type : attr.type <;>
      simp [Attribute.isLink, AttributeType.isLink, type]
  rw [isScalar]
  unfold checkAttribute
  split
  next isBoth => simp_all
  next notBoth =>
    have fits : attr.isSpecial = true → attr.isLink = false := by
      simpa using notBoth
    rw [and_iff_right fits]
    cases attr.type with
    | scalar domain =>
        simp [checkType, AttributeType.target?, AttributeType.reversed?]
    | hostname target =>
        cases target <;>
          simp [checkType, AttributeType.target?, AttributeType.reversed?,
            requireServertype_eq_ok]
    | supernet target =>
        simp [checkType, AttributeType.target?, AttributeType.reversed?,
          requireServertype_eq_ok]
    | reverseHostname reversed =>
        simp only [checkType, AttributeType.target?, AttributeType.reversed?,
          bind_eq_ok, requireAttribute_eq_ok, distinct.findAttribute?_eq_some]
        simp [and_assoc]

theorem checkRelation_eq_ok (distinct : schema.HasDistinctAttributes)
    {binding : Binding} {via : AttributeId} :
    schema.checkRelation binding via = .ok () ↔
      via ≠ binding.attributeId ∧
        ∃ attr ∈ schema.attributes,
        attr.id = via ∧ attr.type.isLink = true := by
  unfold checkRelation
  dsimp only
  split
  next isItself => simp [isItself]
  next isOther =>
    simp only [bind_eq_ok, requireAttribute_eq_ok,
      distinct.findAttribute?_eq_some, ite_eq_ok]
    simp [isOther, Attribute.isLink, and_assoc]

/-- A check of a binding succeeds when all it names is declared, its link is a
link other than the bound attribute, and no binding is for the same pair. -/
theorem checkBinding_eq_ok (distinct : schema.HasDistinctAttributes)
    {binding : Binding} :
    schema.checkBinding binding = .ok () ↔
      (binding.servertype ∈ schema.servertypes ∧
        (∃ attr ∈ schema.attributes, attr.id = binding.attributeId) ∧
        ∀ via, binding.relatedVia = some via → via ≠ binding.attributeId ∧
          ∃ attr ∈ schema.attributes, attr.id = via ∧ attr.type.isLink = true) ∧
      binding.pair ∉ schema.allBindings.map Binding.pair := by
  have isDeclared :
      (∃ attr, schema.requireAttribute binding.attributeId = .ok attr) ↔
      ∃ attr ∈ schema.attributes, attr.id = binding.attributeId := by
    simp only [requireAttribute_eq_ok, distinct.findAttribute?_eq_some]
  unfold checkBinding
  simp only [check_bind_eq_ok, requireServertype_eq_ok]
  rw [bind_eq_ok, exists_and_right, isDeclared]
  cases found : schema.binding? binding.servertype binding.attributeId with
  | none =>
      have isFree : binding.pair ∉ schema.allBindings.map Binding.pair :=
        binding?_eq_none.mp found
      cases relatedVia : binding.relatedVia with
      | none => simp [isFree]
      | some via =>
          simp [isFree, check_bind_eq_ok, checkRelation_eq_ok distinct]
  | some other =>
      have isTaken : binding.pair ∈ schema.allBindings.map Binding.pair := by
        by_contra isFree
        simp [binding?_eq_none.mpr isFree] at found
      refine iff_of_false ?_ fun ⟨_, isFree⟩ => isFree isTaken
      cases relatedVia : binding.relatedVia with
      | none => simp
      | some via => simp [check_bind_eq_ok]

theorem addBinding_eq_ok {binding : Binding} :
    schema.addBinding binding = .ok next ↔
      schema.checkBinding binding = .ok () ∧ next = { schema with
        allBindings :=
          Sorted.insertBy (fun binding => binding.servertype) binding
              schema.allBindings } := by
  unfold addBinding
  rw [check_bind_eq_ok, pure_eq_ok, eq_comm (a := next)]

/-! ## Whole schemas -/

section Loops

variable {servertypes : List ServertypeId} {attributes : List Attribute}

theorem foldlM_addServertype_eq_ok {given : List ServertypeId} :
    given.foldlM addServertype {} = .ok next ↔
      given.Nodup ∧
        next = ⟨Sorted.insertAll (fun id => id) given [], [], []⟩ := by
  have looped : given.foldlM addServertype ⟨[], [], []⟩ = .ok next ↔ _ :=
    foldlM_insert_eq_ok (fun servertypes => ⟨servertypes, [], []⟩)
      (fun id => id) (fun id => id) (fun _ => True)
      (fun values value next => addServertype_eq_ok.trans (by simp)) given []
  simpa using looped

theorem foldlM_addAttribute_eq_ok {given : List Attribute} :
    given.foldlM addAttribute ⟨servertypes, [], []⟩ = .ok next ↔
      (given.map (·.id)).Nodup ∧
        next = ⟨servertypes, Sorted.insertAll (fun attr => attr.id) given [],
          []⟩ := by
  have looped : given.foldlM addAttribute ⟨servertypes, [], []⟩ =
      .ok next ↔ _ :=
    foldlM_insert_eq_ok (fun attributes => ⟨servertypes, attributes, []⟩)
      (fun attr => attr.id) (fun attr => attr.id) (fun _ => True)
      (fun values value next => addAttribute_eq_ok.trans (by simp)) given []
  simpa using looped

/-- Bindings to declared servertypes and attributes are added unless there is
one for the same pair. -/
theorem foldlM_addBinding_eq_ok (distinct : (attributes.map (·.id)).Nodup)
    {given : List Binding} :
    given.foldlM addBinding ⟨servertypes, attributes, []⟩ = .ok next ↔
      (∀ binding ∈ given, binding.servertype ∈ servertypes ∧
        (∃ attr ∈ attributes, attr.id = binding.attributeId) ∧
        ∀ via, binding.relatedVia = some via → via ≠ binding.attributeId ∧
          ∃ attr ∈ attributes, attr.id = via ∧ attr.type.isLink = true) ∧
      (given.map Binding.pair).Nodup ∧
      next = ⟨servertypes, attributes,
        Sorted.insertAll (fun binding => binding.servertype) given []⟩ := by
  have looped : given.foldlM addBinding ⟨servertypes, attributes, []⟩ =
      .ok next ↔ _ :=
    foldlM_insert_eq_ok (fun bindings => ⟨servertypes, attributes, bindings⟩)
        Binding.pair (fun binding => binding.servertype)
          (fun binding => binding.servertype ∈ servertypes ∧
            (∃ attr ∈ attributes, attr.id = binding.attributeId) ∧
            ∀ via, binding.relatedVia = some via → via ≠ binding.attributeId ∧
              ∃ attr ∈ attributes, attr.id = via ∧ attr.type.isLink = true)
      (fun values value next => by
        have distinctHere : HasDistinctAttributes
          ⟨servertypes, attributes, values⟩ := distinct
        rw [addBinding_eq_ok, checkBinding_eq_ok distinctHere, and_assoc])
          given []
  simpa using looped

end Loops

/-- The schema that holds what is declared. -/
def holding (declarations : List Declaration) : Schema where
  servertypes :=
    Sorted.insertAll (fun id => id) (Declaration.servertypes declarations) []
  attributes :=
    Sorted.insertAll (fun attr => attr.id)
      (Declaration.attributes declarations) []
  allBindings :=
    Sorted.insertAll (fun binding => binding.servertype)
      (Declaration.bindings declarations) []

section Holding

variable (declarations : List Declaration)

theorem servertypes_holding :
    (holding declarations).servertypes.Perm
      (Declaration.servertypes declarations) := by
  simpa [holding] using Sorted.insertAll_perm (fun id => id) _ []

theorem attributes_holding :
    (holding declarations).attributes.Perm
      (Declaration.attributes declarations) := by
  simpa [holding] using
    Sorted.insertAll_perm (fun attr : Attribute => attr.id) _ []

theorem allBindings_holding :
    (holding declarations).allBindings.Perm
      (Declaration.bindings declarations) := by
  simpa [holding] using
    Sorted.insertAll_perm (fun binding : Binding => binding.servertype) _ []

end Holding

/-- Building succeeds for consistent declarations, with the schema that holds
them. -/
theorem build_eq_ok {declarations : List Declaration} :
    build declarations = .ok schema ↔
      Declaration.AreConsistent declarations ∧
        schema = holding declarations := by
  have isServertype {id : ServertypeId} :=
    (servertypes_holding declarations).mem_iff (a := id)
  have isAttribute {attr : Attribute} :=
    (attributes_holding declarations).mem_iff (a := attr)
  have isDeclared {id : AttributeId} {IsKind : AttributeType → Prop} :
      (∃ attr ∈ (holding declarations).attributes,
        attr.id = id ∧ IsKind attr.type) ↔
        Declaration.Declares declarations id IsKind := by
    simp only [Declaration.Declares, isAttribute]
  have isBound {id : AttributeId} : (∃ attr ∈ (holding declarations).attributes,
      attr.id = id) ↔
      Declaration.Declares declarations id fun _ => True := by
    simp only [← isDeclared, and_true]
  have distinct : ((Declaration.attributes declarations).map (·.id)).Nodup ↔
      ((holding declarations).attributes.map (·.id)).Nodup :=
    ((attributes_holding declarations).map _).nodup_iff.symm
  constructor
  · intro built
    obtain ⟨_, addedServertypes, later⟩ := bind_eq_ok.mp built
    obtain ⟨distinctServertypes, rfl⟩ :=
      foldlM_addServertype_eq_ok.mp addedServertypes
    obtain ⟨_, addedAttributes, later⟩ := bind_eq_ok.mp later
    obtain ⟨distinctAttributes, rfl⟩ :=
      foldlM_addAttribute_eq_ok.mp addedAttributes
    obtain ⟨checked, addedBindings⟩ := check_bind_eq_ok.mp later
    have distinctHere := distinct.mp distinctAttributes
    obtain ⟨bound, distinctPairs, rfl⟩ :=
      (foldlM_addBinding_eq_ok distinctHere).mp addedBindings
    have fits := fun attr member => (checkAttribute_eq_ok distinctHere).mp
      (forM_eq_ok.mp checked attr (isAttribute.mpr member))
    refine ⟨⟨distinctServertypes, distinctAttributes,
      fun attr member => (fits attr member).1,
      fun attr member target isTarget => ?_,
      fun attr member id isReversed => ?_, fun binding member => ?_,
      fun binding member via isVia => ?_, distinctPairs⟩, rfl⟩
    · exact isServertype.mp ((fits attr member).2.1 target isTarget)
    · exact isDeclared.mp ((fits attr member).2.2 id isReversed)
    · exact ⟨isServertype.mp (bound binding member).1,
        isBound.mp (bound binding member).2.1⟩
    · obtain ⟨differs, isLink⟩ := (bound binding member).2.2 via isVia
      exact ⟨differs, isDeclared.mp isLink⟩
  · rintro ⟨consistent, rfl⟩
    have distinctHere := distinct.mp consistent.attributes
    refine bind_eq_ok.mpr
      ⟨_, foldlM_addServertype_eq_ok.mpr ⟨consistent.servertypes, rfl⟩,
        bind_eq_ok.mpr
          ⟨_, foldlM_addAttribute_eq_ok.mpr ⟨consistent.attributes, rfl⟩,
            check_bind_eq_ok.mpr ⟨forM_eq_ok.mpr fun attr member => ?_,
              (foldlM_addBinding_eq_ok distinctHere).mpr
                ⟨fun binding member => ⟨?_, ?_, fun via isVia => ?_⟩,
                  consistent.pairs, rfl⟩⟩⟩⟩
    · have isGiven := isAttribute.mp member
      refine (checkAttribute_eq_ok distinctHere).mpr
        ⟨consistent.special attr isGiven,
          fun target isTarget => ?_, fun id isReversed => ?_⟩
      · exact isServertype.mpr (consistent.targets attr isGiven target isTarget)
      · exact isDeclared.mpr (consistent.reversed attr isGiven id isReversed)
    · exact isServertype.mpr (consistent.bound binding member).1
    · exact isBound.mpr (consistent.bound binding member).2
    · obtain ⟨differs, isLink⟩ := consistent.links binding member via isVia
      exact ⟨differs, isDeclared.mpr isLink⟩

section Built

variable {declarations : List Declaration}
  (built : build declarations = .ok schema)

include built

theorem build_distinctAttributes : schema.HasDistinctAttributes := by
  obtain ⟨consistent, rfl⟩ := build_eq_ok.mp built
  exact ((attributes_holding declarations).map _).nodup_iff.mpr
    consistent.attributes

/-- A schema that was built has distinct bindings. -/
theorem build_distinct : schema.HasDistinctBindings := by
  obtain ⟨consistent, rfl⟩ := build_eq_ok.mp built
  exact ((allBindings_holding declarations).map _).nodup_iff.mpr
    consistent.pairs

/-- A schema that was built has declared links. -/
theorem build_links : schema.HasDeclaredLinks := by
  have distinct := build_distinctAttributes built
  obtain ⟨consistent, rfl⟩ := build_eq_ok.mp built
  intro binding member via isVia
  obtain ⟨-, attr, isGiven, hasId, isLink⟩ := consistent.links binding
    ((allBindings_holding declarations).mem_iff.mp member) via isVia
  exact ⟨attr, distinct.findAttribute?_eq_some.mpr
    ⟨(attributes_holding declarations).mem_iff.mpr isGiven, hasId⟩, isLink⟩

/-- In a schema that was built, only scalars are held by columns of the server
table. -/
theorem build_special {attr : Attribute} (member : attr ∈ schema.attributes)
    (isSpecial : attr.isSpecial = true) : attr.isLink = false := by
  obtain ⟨consistent, rfl⟩ := build_eq_ok.mp built
  obtain ⟨domain, isScalar⟩ := consistent.special attr
    ((attributes_holding declarations).mem_iff.mp member) isSpecial
  simp [Attribute.isLink, isScalar, AttributeType.isLink]

/-- In a schema that was built, the servertypes that types lead to are
declared. -/
theorem build_targets {attr : Attribute} (member : attr ∈ schema.attributes)
    {target : ServertypeId} (isTarget : attr.type.target? = some target) :
    target ∈ schema.servertypes := by
  obtain ⟨consistent, rfl⟩ := build_eq_ok.mp built
  exact (servertypes_holding declarations).mem_iff.mpr (consistent.targets attr
    ((attributes_holding declarations).mem_iff.mp member) target isTarget)

/-- In a schema that was built, the attributes that types are the reverse of are
declared. -/
theorem build_reversed {attr : Attribute} (member : attr ∈ schema.attributes)
    (isReversed : attr.type.reversed? = some id) : ∃ other ∈ schema.attributes,
    other.id = id := by
  obtain ⟨consistent, rfl⟩ := build_eq_ok.mp built
  obtain ⟨other, isGiven, hasId, -⟩ := consistent.reversed attr
    ((attributes_holding declarations).mem_iff.mp member) id isReversed
  exact ⟨other, (attributes_holding declarations).mem_iff.mpr isGiven, hasId⟩

end Built

/-- The bindings of an attribute are in ascending order, and none is twice for a
servertype. -/
theorem bindings_pairwise {declarations : List Declaration}
    (built : build declarations = .ok schema) (id : AttributeId) :
    (schema.bindings id).Pairwise (·.servertype < ·.servertype) := by
  have distinct : (schema.bindings id).Pairwise (·.servertype ≠ ·.servertype) :=
    List.pairwise_map.mp ((build_distinct built).servertypes_nodup id)
  obtain ⟨-, rfl⟩ := build_eq_ok.mp built
  have sorted : (holding declarations).allBindings.Pairwise
      (·.servertype ≤ ·.servertype) :=
    Sorted.insertAll_pairwise .nil _
  refine ((sorted.sublist List.filter_sublist).and distinct).imp ?_
  rintro binding other ⟨isBelow, differs⟩
  exact lt_of_le_of_ne isBelow differs

/-- Declarations build a schema exactly when they are consistent. The schema
then holds the servertypes, attributes and bindings that were declared, each
found by its identifiers, and the bindings of an attribute are in ascending
order of their servertypes. -/
theorem build_holds_declarations (declarations : List Declaration) :
    ((∃ schema, build declarations = .ok schema) ↔
      Declaration.AreConsistent declarations) ∧
    ∀ schema, build declarations = .ok schema →
      schema.servertypes.Perm (Declaration.servertypes declarations) ∧
      schema.attributes.Perm (Declaration.attributes declarations) ∧
      (∀ id attr, schema.findAttribute? id = some attr ↔
        attr ∈ Declaration.attributes declarations ∧ attr.id = id) ∧
      (∀ id, (schema.bindings id).Perm
          ((Declaration.bindings declarations).filter (·.attributeId = id)) ∧
        (schema.bindings id).Pairwise (·.servertype < ·.servertype)) ∧
      ∀ servertype id binding, schema.binding? servertype id = some binding ↔
        binding ∈ Declaration.bindings declarations ∧
          binding.servertype = servertype ∧
          binding.attributeId = id := by
  constructor
  · constructor
    · rintro ⟨schema, built⟩
      exact (build_eq_ok.mp built).1
    · intro consistent
      exact ⟨holding declarations, build_eq_ok.mpr ⟨consistent, rfl⟩⟩
  · intro schema built
    have distinctAttributes := build_distinctAttributes built
    have distinctBindings := build_distinct built
    have inOrder := bindings_pairwise built
    obtain ⟨-, rfl⟩ := build_eq_ok.mp built
    refine ⟨servertypes_holding declarations, attributes_holding declarations,
      fun id attr => ?_, fun id => ⟨(allBindings_holding declarations).filter _,
        inOrder id⟩,
      fun servertype id binding => ?_⟩
    · rw [distinctAttributes.findAttribute?_eq_some,
        (attributes_holding declarations).mem_iff]
    · rw [distinctBindings.binding?_eq_some, mem_bindings,
        (allBindings_holding declarations).mem_iff, and_assoc,
        and_comm (a := _ = id)]

/-- A link and what is bound through it may be declared in any order. -/
theorem build_holds_declarations_rack :
    let host : Attribute :=
      { id := "host", type := .hostname (some "hypervisor") }
    let rack : Attribute := { id := "rack", type := .scalar .string }
    let declarations : List Declaration :=
      [.binding ⟨"vm", "rack", some "host"⟩, .attr rack, .servertype "vm",
        .binding ⟨"vm", "host", none⟩, .binding ⟨"hypervisor", "rack", none⟩,
        .attr host, .servertype "hypervisor"]
    ∃ schema, build declarations = .ok schema ∧
      Declaration.AreConsistent declarations ∧
      schema.findAttribute? "host" = some host ∧
      schema.binding? "vm" "rack" = some ⟨"vm", "rack", some "host"⟩ ∧
      (schema.bindings "rack").Pairwise (·.servertype < ·.servertype) := by
  intro host rack declarations
  have built : build declarations = .ok ⟨["hypervisor", "vm"], [host, rack],
      [⟨"hypervisor", "rack", none⟩, ⟨"vm", "host", none⟩,
        ⟨"vm", "rack", some "host"⟩]⟩ := by
    cbv
  obtain ⟨isOk_iff, holds⟩ := build_holds_declarations declarations
  obtain ⟨-, -, attributes, bindings, pairs⟩ := holds _ built
  refine ⟨_, built, isOk_iff.mp ⟨_, built⟩,
    (attributes "host" host).mpr ⟨?_, rfl⟩,
    (pairs "vm" "rack" _).mpr ⟨?_, rfl, rfl⟩, (bindings "rack").2⟩
  · simp [declarations, Declaration.attributes]
  · simp [declarations, Declaration.bindings]

end Schema

end AttributeQuery
