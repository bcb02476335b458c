import AttributeQuery.Proofs.Success
import AttributeQuery.Schema.Basic

/-!
# Bindings of a schema

With distinct identifiers, the attribute with an identifier is the only one.
With one binding at most for an attribute and a servertype, so is the binding of
an attribute to a servertype.
-/

namespace AttributeQuery

/-- Of elements with distinct keys, the one found by its key is the only one. -/
theorem find?_key_eq_some {α Key : Type} [DecidableEq Key] {key : α → Key}
    {values : List α} (distinct : (values.map key).Nodup) {wanted : Key}
    {value : α} :
    values.find? (fun value => key value = wanted) = some value ↔
      value ∈ values ∧ key value = wanted := by
  refine ⟨fun found =>
    ⟨List.mem_of_find?_eq_some found, by simpa using List.find?_some found⟩,
    fun ⟨member, hasKey⟩ => ?_⟩
  cases found : values.find? (fun value => key value = wanted) with
  | none => simpa [hasKey] using List.find?_eq_none.mp found value member
  | some other =>
      have sameKey : key other = key value := by
        simpa [hasKey] using List.find?_some found
      rw [List.inj_on_of_nodup_map distinct (List.mem_of_find?_eq_some found)
        member sameKey]

/-- The servertype and the attribute that a binding brings together. -/
def Binding.pair (binding : Binding) : ServertypeId × AttributeId :=
  (binding.servertype, binding.attributeId)

namespace Schema

variable {schema : Schema} {id : AttributeId} {servertype : ServertypeId}

/-! ## Attributes -/

theorem requireAttribute_eq_ok {attr : Attribute} :
    schema.requireAttribute id = .ok attr ↔
      schema.findAttribute? id = some attr := by
  unfold requireAttribute
  split
  next found => simp [found]
  next notFound => simp [notFound]

theorem mem_of_findAttribute? {attr : Attribute}
    (found : schema.findAttribute? id = some attr) :
    attr ∈ schema.attributes :=
  List.mem_of_find?_eq_some found

/-- Attributes have distinct identifiers. -/
def HasDistinctAttributes (schema : Schema) : Prop :=
  (schema.attributes.map (·.id)).Nodup

/-- The attribute with an identifier is the only one. -/
theorem HasDistinctAttributes.findAttribute?_eq_some
    (distinct : schema.HasDistinctAttributes) {attr : Attribute} :
    schema.findAttribute? id = some attr ↔ attr ∈ schema.attributes ∧
      attr.id = id :=
  find?_key_eq_some distinct

/-! ## Bindings -/

/-- No two bindings are for the same attribute and servertype. -/
def HasDistinctBindings (schema : Schema) : Prop :=
  (schema.allBindings.map fun binding =>
    (binding.servertype, binding.attributeId)).Nodup

/-- Every binding that goes through an attribute goes through a declared
link. -/
def HasDeclaredLinks (schema : Schema) : Prop :=
  ∀ binding ∈ schema.allBindings, ∀ via, binding.relatedVia = some via →
    ∃ attr, schema.findAttribute? via = some attr ∧ attr.isLink = true

theorem mem_bindings {binding : Binding} :
    binding ∈ schema.bindings id ↔
      binding ∈ schema.allBindings ∧ binding.attributeId = id := by
  simp [bindings]

theorem mem_of_binding? {binding : Binding}
    (found : schema.binding? servertype id = some binding) :
    binding ∈ schema.bindings id ∧ binding.servertype = servertype :=
  ⟨List.mem_of_find?_eq_some found, by simpa using List.find?_some found⟩

theorem binding?_eq_none :
    schema.binding? servertype id = none ↔
      (servertype, id) ∉ schema.allBindings.map Binding.pair := by
  simp only [binding?, bindings, Binding.pair, List.find?_eq_none,
    List.mem_filter, List.mem_map, Prod.mk.injEq, decide_eq_true_eq,
    not_exists, not_and]
  exact forall_congr' fun binding =>
    ⟨fun none member isServertype isAttribute =>
      none ⟨member, isAttribute⟩ isServertype,
      fun none member isServertype => none member.1 isServertype member.2⟩

/-- The bindings of an attribute are to distinct servertypes. -/
theorem HasDistinctBindings.servertypes_nodup
    (distinct : schema.HasDistinctBindings) (id : AttributeId) :
    ((schema.bindings id).map (·.servertype)).Nodup := by
  refine List.Nodup.map_on ?_ (distinct.of_map.filter _)
  intro binding isBinding other isOther same
  obtain ⟨isDeclared, isAttribute⟩ := mem_bindings.mp isBinding
  obtain ⟨isOtherDeclared, sameAttribute⟩ := mem_bindings.mp isOther
  refine List.inj_on_of_nodup_map distinct isDeclared isOtherDeclared ?_
  rw [same, isAttribute, sameAttribute]

/-- The binding of an attribute to a servertype is the only one. -/
theorem HasDistinctBindings.binding?_eq_some
    (distinct : schema.HasDistinctBindings) {binding : Binding} :
    schema.binding? servertype id = some binding ↔
      binding ∈ schema.bindings id ∧ binding.servertype = servertype :=
  find?_key_eq_some (distinct.servertypes_nodup id)

end Schema

end AttributeQuery
