import AttributeQuery.Proofs.Schema.Construction

/-!
# The order of declarations

Declarations build a schema in any order or in none. The schemas that they build
in different orders have the same servertypes and attributes, and the same
bindings of each attribute. Only bindings of different attributes may stand in
another order, which nothing that looks a binding up can tell.
-/

namespace AttributeQuery

section Permuted

variable {declarations others : List Declaration}
  (isPerm : declarations.Perm others)

include isPerm

namespace Declaration

theorem servertypes_perm :
    (servertypes declarations).Perm (servertypes others) :=
  isPerm.filterMap _

theorem attributes_perm : (attributes declarations).Perm (attributes others) :=
  isPerm.filterMap _

theorem bindings_perm : (bindings declarations).Perm (bindings others) :=
  isPerm.filterMap _

/-- Declarations that fit together do so in any order. -/
theorem AreConsistent.perm (consistent : AreConsistent declarations) :
    AreConsistent others := by
  have sameServertypes := servertypes_perm isPerm
  have sameAttributes := attributes_perm isPerm
  have sameBindings := bindings_perm isPerm
  have declares {id : AttributeId} {IsKind : AttributeType → Prop}
      (declared : Declares declarations id IsKind) : Declares others
      id IsKind := by
    obtain ⟨attr, member, isKind⟩ := declared
    exact ⟨attr, sameAttributes.mem_iff.mp member, isKind⟩
  exact {
    servertypes := sameServertypes.nodup_iff.mp consistent.servertypes
    attributes := (sameAttributes.map _).nodup_iff.mp consistent.attributes
    special :=
      fun attr member =>
        consistent.special attr (sameAttributes.mem_iff.mpr member)
    targets := fun attr member target isTarget => sameServertypes.mem_iff.mp
      (consistent.targets attr (sameAttributes.mem_iff.mpr member)
        target isTarget)
    reversed := fun attr member id isReversed => declares
      (consistent.reversed attr (sameAttributes.mem_iff.mpr member)
        id isReversed)
    bound := fun binding member =>
      have isBound := consistent.bound binding (sameBindings.mem_iff.mpr member)
      ⟨sameServertypes.mem_iff.mp isBound.1, declares isBound.2⟩
    links := fun binding member via isVia =>
      have isLink :=
        consistent.links binding (sameBindings.mem_iff.mpr member) via isVia
      ⟨isLink.1, declares isLink.2⟩
    pairs := (sameBindings.map _).nodup_iff.mp consistent.pairs }

end Declaration

namespace Schema

/-- Whether declarations build a schema does not depend on their order. -/
theorem exists_build_iff_of_perm :
    (∃ schema, build declarations = .ok schema) ↔ ∃ schema,
    build others = .ok schema := by
  simp only [build_eq_ok, exists_and_left, exists_eq, and_true]
  exact ⟨fun consistent => consistent.perm isPerm,
    fun consistent => consistent.perm isPerm.symm⟩

end Schema

end Permuted

namespace Schema

/-- Two schemas with the same servertypes, the same attributes, and the same
bindings of each attribute. -/
structure SameContents (schema other : Schema) : Prop where
  servertypes : schema.servertypes = other.servertypes
  attributes : schema.attributes = other.attributes
  bindings : ∀ id, schema.bindings id = other.bindings id

namespace SameContents

protected theorem refl (schema : Schema) : schema.SameContents schema :=
  ⟨rfl, rfl, fun _ => rfl⟩

variable {schema other : Schema} (same : schema.SameContents other)

include same

theorem requireAttribute_eq (id : AttributeId) :
    schema.requireAttribute id = other.requireAttribute id := by
  rw [requireAttribute, requireAttribute, findAttribute?, findAttribute?,
    same.attributes]

theorem hasServertype_eq (id : ServertypeId) :
    schema.hasServertype id = other.hasServertype id := by
  rw [hasServertype, hasServertype, same.servertypes]

end SameContents

/-- Schemas built from the same declarations have the same contents. -/
theorem build_sameContents {declarations others : List Declaration}
    (isPerm : declarations.Perm others) {schema other : Schema}
    (built : build declarations = .ok schema)
    (builtOther : build others = .ok other) :
    schema.SameContents other := by
  have ordered := bindings_pairwise built
  have orderedOther := bindings_pairwise builtOther
  obtain ⟨consistent, rfl⟩ := build_eq_ok.mp built
  obtain ⟨-, rfl⟩ := build_eq_ok.mp builtOther
  refine ⟨Sorted.insertAll_congr (by simpa using consistent.servertypes)
      (Declaration.servertypes_perm isPerm),
    Sorted.insertAll_congr consistent.attributes
      (Declaration.attributes_perm isPerm),
    fun id => ?_⟩
  refine Sorted.eq_of_mem_iff (·.servertype) (ordered id) (orderedOther id)
    fun binding => ?_
  rw [mem_bindings, mem_bindings, (allBindings_holding declarations).mem_iff,
    (allBindings_holding others).mem_iff]
  exact and_congr_left fun _ => (Declaration.bindings_perm isPerm).mem_iff

end Schema

end AttributeQuery
