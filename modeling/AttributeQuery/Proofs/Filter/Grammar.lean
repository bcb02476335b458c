import AttributeQuery.Proofs.Filter.Exchange
import AttributeQuery.Proofs.Success

/-!
# The grammar of filters in the exchange format

A JSON value is a filter exactly when it is formed as the grammar says: a
scalar, or an object whose only member names an operator and holds an argument
that fits it. A filter that was read is written as the value it was read from,
except that whole numbers beyond 64 bits with sign become floats. So with the
filters read back in `Proofs.Filter.Exchange`, writing and reading are inverse
to each other but for what the format cannot say: networks, which come back as
texts, and floats that are not finite, which do not come back at all.
-/

namespace AttributeQuery

/-! ## Values that are filters -/

namespace Json.Value

/-- The values that literals are written as. -/
inductive IsScalar : Value → Prop where
  | boolean (value : Bool) : IsScalar (.boolean value)
  | number (value : Number) : IsScalar (.number value)
  | string (text : String) : IsScalar (.string text)

/-- The names of the operators that have a literal as their argument. -/
def literalOperators : List String :=
  ["GreaterThan", "LessThan", "GreaterThanOrEquals", "LessThanOrEquals",
    "StartsWith", "Contains", "ContainedBy", "ContainedOnlyBy", "Overlaps"]

/-- The values that filters are written as. -/
inductive IsFilter : Value → Prop where
  | scalar {value : Value} (isScalar : IsScalar value) : IsFilter value
  | not {argument : Value} (isFilter : IsFilter argument) :
      IsFilter (.object [("Not", argument)])
  | all {items : List Value} (areFilters : ∀ item ∈ items, IsFilter item) :
      IsFilter (.object [("All", .array items)])
  | any {items : List Value} (areFilters : ∀ item ∈ items, IsFilter item) :
      IsFilter (.object [("Any", .array items)])
  | regexp (pattern : String) : IsFilter (.object [("Regexp", .string pattern)])
  | empty : IsFilter (.object [("Empty", .null)])
  | literal {name : String} (isOperator : name ∈ literalOperators)
      {argument : Value} (isScalar : IsScalar argument) : IsFilter
      (.object [(name, argument)])

mutual

/-- Whether the whole numbers of a value fit 64 bits with sign. -/
def isSigned : Value → Bool
  | .number (.whole value) => value.val < 0x8000000000000000
  | .array items => areSigned items
  | .object members => haveSignedValues members
  | _ => true

/-- Whether the whole numbers of all values fit 64 bits with sign. -/
def areSigned : List Value → Bool
  | [] => true
  | item :: rest => item.isSigned && areSigned rest

/-- Whether the whole numbers of all members fit 64 bits with sign. -/
def haveSignedValues : List (String × Value) → Bool
  | [] => true
  | (_, value) :: rest => value.isSigned && haveSignedValues rest

end

end Json.Value

open Json.Value (IsScalar IsFilter literalOperators)

/-! ## Literals -/

namespace Literal

variable {operator : Operator} {value : Json.Value} {literal : Literal}

/-- Literals are read from scalars and from nothing else. -/
theorem ofJson_isOk_iff : (∃ literal, ofJson operator value = .ok literal) ↔
    IsScalar value := by
  constructor
  · rintro ⟨literal, read⟩
    cases value with
    | boolean value => exact .boolean value
    | number value => exact .number value
    | string text => exact .string text
    | null | array | object => simp [ofJson] at read
  · intro isScalar
    cases isScalar with
    | boolean | number | string => exact ⟨_, rfl⟩

theorem toJson_ofNumber {number : Json.Number}
    (isSigned : (Json.Value.number number).isSigned = true) :
    (ofNumber number).toJson = .number number := by
  cases number with
  | double negative magnitude => rfl
  | whole value =>
      obtain ⟨value, lower, upper⟩ := value
      have fits : value < 0x8000000000000000 := by
        simpa [Json.Value.isSigned] using isSigned
      rw [ofNumber, if_pos fits, toJson]
      congr 2
      apply Subtype.ext
      exact Int64.toInt_ofInt_of_le lower fits

/-- A literal that was read is written as it was. -/
theorem toJson_of_ofJson (read : ofJson operator value = .ok literal)
    (isSigned : value.isSigned = true) : literal.toJson = value := by
  cases value with
  | boolean | string =>
      rw [← Except.ok.inj read]
      rfl
  | number number =>
      rw [← Except.ok.inj read]
      exact toJson_ofNumber isSigned
  | null | array | object => simp [ofJson] at read

theorem toJson_isSigned (literal : Literal) :
    literal.toJson.isSigned = true := by
  cases literal with
  | boolean | string | inet => rfl
  | integer value => exact decide_eq_true value.toInt_lt
  | float value => cases value <;> rfl

/-- A float that is not finite is written as null. -/
theorem toJson_eq_null (notFinite : literal.isFinite = false) :
    literal.toJson = .null := by
  cases literal with
  | boolean | integer | string | inet => cases notFinite
  | float value =>
      cases value with
      | finite => cases notFinite
      | infinite | notANumber => rfl

end Literal

/-! ## Filters -/

/-- An operator is found by its name and by no other; equality has none. -/
theorem Operator.ofName?_eq_some {operator : Operator} {name : String} :
    ofName? name = some operator ↔ operator ≠ .equals ∧
      operator.name = name := by
  constructor
  · intro found
    have isNamed : operator ∈ named := List.mem_of_find?_eq_some found
    constructor
    · rintro rfl
      simp [named] at isNamed
    · simpa using List.find?_some found
  · rintro ⟨isNamed, rfl⟩
    exact ofName?_name isNamed

theorem Operator.comparison_mem_literalOperators (relation : Comparison) :
    (Operator.comparison relation).name ∈ literalOperators := by
  cases relation <;> decide

theorem Operator.containment_mem_literalOperators (relation : Containment) :
    (Operator.containment relation).name ∈ literalOperators := by
  cases relation <;> decide

/-- The operators with a literal are the comparisons and the containments. -/
theorem Operator.of_mem_literalOperators {name : String}
    (isOperator : name ∈ literalOperators) :
    (∃ relation : Comparison, name = (Operator.comparison relation).name) ∨
      ∃ relation : Containment,
      name = (Operator.containment relation).name := by
  simp only [literalOperators, List.mem_cons, List.not_mem_nil,
    or_false] at isOperator
  rcases isOperator with rfl | rfl | rfl | rfl | rfl | rfl | rfl | rfl | rfl
  · exact .inl ⟨.greaterThan, rfl⟩
  · exact .inl ⟨.lessThan, rfl⟩
  · exact .inl ⟨.greaterThanOrEquals, rfl⟩
  · exact .inl ⟨.lessThanOrEquals, rfl⟩
  · exact .inr ⟨.startsWith, rfl⟩
  · exact .inr ⟨.contains, rfl⟩
  · exact .inr ⟨.containedBy, rfl⟩
  · exact .inr ⟨.containedOnlyBy, rfl⟩
  · exact .inr ⟨.overlaps, rfl⟩

namespace Filter

/-- What an object with one member is read as. -/
inductive ReadsMember : String → Json.Value → Filter → Prop where
  | not {argument : Json.Value} {inner : Filter}
      (read : Filter.ofJson argument = .ok inner) :
      ReadsMember Operator.not.name argument (.not inner)
  | all {items : List Json.Value} {children : List Filter}
      (read : itemsOfJson items = .ok children) :
      ReadsMember Operator.all.name (.array items) (.all children)
  | any {items : List Json.Value} {children : List Filter}
      (read : itemsOfJson items = .ok children) :
      ReadsMember Operator.any.name (.array items) (.any children)
  | regexp (pattern : String) :
      ReadsMember Operator.regexp.name (.string pattern)
        (.leaf (.regexp pattern))
  | empty : ReadsMember Operator.empty.name .null (.leaf .empty)
  | comparison {relation : Comparison} {argument : Json.Value}
      {literal : Literal}
      (read : Literal.ofJson (.comparison relation) argument = .ok literal) :
      ReadsMember (Operator.comparison relation).name argument
        (.leaf (.comparison relation literal))
  | containment {relation : Containment} {argument : Json.Value}
      {literal : Literal}
      (read : Literal.ofJson (.containment relation) argument = .ok literal) :
      ReadsMember (Operator.containment relation).name argument
        (.leaf (.containment relation literal))

theorem listOfJson_eq_ok {operator : Operator} {argument : Json.Value}
    {children : List Filter} :
    listOfJson operator argument = .ok children ↔
      ∃ items, argument = .array items ∧ itemsOfJson items = .ok children := by
  cases argument <;> simp [listOfJson]

theorem ofJson_member_eq_ok {name : String} {argument : Json.Value}
    {filter : Filter} :
    Filter.ofJson (.object [(name, argument)]) = .ok filter ↔
      ReadsMember name argument filter := by
  constructor
  · intro read
    unfold Filter.ofJson at read
    cases found : Operator.ofName? name with
    | none => simp [found] at read
    | some operator =>
        obtain ⟨isNamed, rfl⟩ := Operator.ofName?_eq_some.mp found
        simp only [found] at read
        cases operator with
        | equals => exact absurd rfl isNamed
        | not =>
            obtain ⟨inner, readInner, rfl⟩ := map_eq_ok.mp read
            exact .not readInner
        | all =>
            obtain ⟨children, readList, rfl⟩ := map_eq_ok.mp read
            obtain ⟨items, rfl, readItems⟩ := listOfJson_eq_ok.mp readList
            exact .all readItems
        | any =>
            obtain ⟨children, readList, rfl⟩ := map_eq_ok.mp read
            obtain ⟨items, rfl, readItems⟩ := listOfJson_eq_ok.mp readList
            exact .any readItems
        | regexp =>
            cases argument with
            | string pattern =>
                rw [← Except.ok.inj read]
                exact .regexp pattern
            | null | boolean | number | array | object => cases read
        | empty =>
            cases argument with
            | null =>
                rw [← Except.ok.inj read]
                exact .empty
            | string | boolean | number | array | object => cases read
        | comparison relation =>
            obtain ⟨literal, readLiteral, rfl⟩ := map_eq_ok.mp read
            exact .comparison readLiteral
        | containment relation =>
            obtain ⟨literal, readLiteral, rfl⟩ := map_eq_ok.mp read
            exact .containment readLiteral
  · intro reads
    unfold Filter.ofJson
    cases reads with
    | regexp | empty => rw [Operator.ofName?_name (by simp)]
    | not read | all read | any read | comparison read | containment read =>
        rw [Operator.ofName?_name (by simp)]
        exact map_eq_ok.mpr ⟨_, read, rfl⟩

/-- Other values are read as equalities, if at all. -/
theorem ofJson_scalar {value : Json.Value} (isScalar : IsScalar value) :
    Filter.ofJson value = (Literal.ofJson .equals value).map equals := by
  cases isScalar <;> simp [Filter.ofJson]

theorem itemsOfJson_eq_ok {items : List Json.Value} {children : List Filter} :
    itemsOfJson items = .ok children ↔
      List.Forall₂ (fun item child => Filter.ofJson item = .ok child) items
        children := by
  induction items generalizing children with
  | nil => simp [itemsOfJson, eq_comm]
  | cons item rest ih =>
      simp only [itemsOfJson, bind_eq_ok, pure_eq_ok, ih,
        List.forall₂_cons_left_iff]
      constructor
      · rintro ⟨child, readChild, others, readOthers, rfl⟩
        exact ⟨child, others, readChild, readOthers, rfl⟩
      · rintro ⟨child, others, readChild, readOthers, rfl⟩
        exact ⟨child, readChild, others, readOthers, rfl⟩

/-- A value that is read as a filter is a scalar or an object with one
member. -/
theorem scalar_or_member_of_ofJson {value : Json.Value} {filter : Filter}
    (read : Filter.ofJson value = .ok filter) :
    IsScalar value ∨ ∃ name argument, value = .object [(name, argument)] := by
  cases value with
  | boolean value => exact .inl (.boolean value)
  | number value => exact .inl (.number value)
  | string text => exact .inl (.string text)
  | null | array => simp [Filter.ofJson] at read
  | object members =>
      match members with
      | [(name, argument)] => exact .inr ⟨name, argument, rfl⟩
      | [] | _ :: _ :: _ => simp [Filter.ofJson] at read

mutual

/-- A filter that was read is written as it was. -/
theorem toJson_of_ofJson : (value : Json.Value) → {filter : Filter} →
    Filter.ofJson value = .ok filter → value.isSigned = true →
    filter.toJson = value
  | value, filter, read, isSigned => by
      rcases scalar_or_member_of_ofJson read with
        isScalar | ⟨name, argument, rfl⟩
      · rw [ofJson_scalar isScalar] at read
        obtain ⟨literal, readLiteral, rfl⟩ := map_eq_ok.mp read
        exact Literal.toJson_of_ofJson readLiteral isSigned
      · have argumentIsSigned : argument.isSigned = true := by
          simpa [Json.Value.isSigned, Json.Value.haveSignedValues] using
            isSigned
        cases ofJson_member_eq_ok.mp read with
        | not readInner =>
            rw [toJson, toJson_of_ofJson argument readInner argumentIsSigned]
        | @all items children readItems | @any items children readItems =>
            rw [toJson,
              listToJson_of_itemsOfJson items readItems argumentIsSigned]
        | regexp | empty => rfl
        | comparison readLiteral | containment readLiteral =>
            rw [toJson, Leaf.toJson,
              Literal.toJson_of_ofJson readLiteral argumentIsSigned]

theorem listToJson_of_itemsOfJson :
    (items : List Json.Value) → {children : List Filter} →
    itemsOfJson items = .ok children → Json.Value.areSigned items = true →
    listToJson children = items
  | [], children, read, isSigned => by
      rw [← Except.ok.inj read]
      rfl
  | item :: rest, children, read, isSigned => by
      obtain ⟨itemIsSigned, restAreSigned⟩ := Bool.and_eq_true_iff.mp isSigned
      obtain ⟨child, readItem, later⟩ := bind_eq_ok.mp read
      obtain ⟨others, readRest, returned⟩ := bind_eq_ok.mp later
      rw [← pure_eq_ok.mp returned, listToJson,
        toJson_of_ofJson item readItem itemIsSigned,
        listToJson_of_itemsOfJson rest readRest restAreSigned]

end

mutual

/-- Filters are written without whole numbers beyond 64 bits with sign. -/
theorem toJson_isSigned : (filter : Filter) → filter.toJson.isSigned = true
  | .leaf single => by
      cases single with
      | equals literal => exact literal.toJson_isSigned
      | regexp | empty => rfl
      | comparison relation literal | containment relation literal =>
          simp [toJson, Leaf.toJson, Json.Value.isSigned,
            Json.Value.haveSignedValues, literal.toJson_isSigned]
  | .not inner => by
      simp [toJson, Json.Value.isSigned, Json.Value.haveSignedValues,
        toJson_isSigned inner]
  | .all children => by
      simp [toJson, Json.Value.isSigned, Json.Value.haveSignedValues,
        listToJson_areSigned children]
  | .any children => by
      simp [toJson, Json.Value.isSigned, Json.Value.haveSignedValues,
        listToJson_areSigned children]

theorem listToJson_areSigned : (children : List Filter) →
    Json.Value.areSigned (listToJson children) = true
  | [] => rfl
  | child :: rest => by
      rw [listToJson, Json.Value.areSigned, toJson_isSigned child,
        listToJson_areSigned rest]
      rfl

end

/-! ## Values that are read -/

/-- A value that is read as a filter is formed by the grammar. -/
theorem isFilter_of_ofJson (value : Json.Value) {filter : Filter}
    (read : Filter.ofJson value = .ok filter) : IsFilter value := by
  rcases scalar_or_member_of_ofJson read with isScalar | ⟨name, argument, rfl⟩
  · exact .scalar isScalar
  · cases ofJson_member_eq_ok.mp read with
    | not readInner => exact .not (isFilter_of_ofJson argument readInner)
    | regexp pattern => exact .regexp pattern
    | empty => exact .empty
    | comparison readLiteral =>
        exact .literal (Operator.comparison_mem_literalOperators _)
          (Literal.ofJson_isOk_iff.mp ⟨_, readLiteral⟩)
    | containment readLiteral =>
        exact .literal (Operator.containment_mem_literalOperators _)
          (Literal.ofJson_isOk_iff.mp ⟨_, readLiteral⟩)
    | @all items children readItems =>
        refine .all fun item member => ?_
        obtain ⟨child, -, readItem⟩ :=
          exists_of_forall₂_left (itemsOfJson_eq_ok.mp readItems) member
        exact isFilter_of_ofJson item readItem
    | @any items children readItems =>
        refine .any fun item member => ?_
        obtain ⟨child, -, readItem⟩ :=
          exists_of_forall₂_left (itemsOfJson_eq_ok.mp readItems) member
        exact isFilter_of_ofJson item readItem

/-- Values are read one after the other when each of them is read. -/
theorem exists_itemsOfJson {items : List Json.Value}
    (each : ∀ item ∈ items, ∃ child, Filter.ofJson item = .ok child) :
    ∃ children, itemsOfJson items = .ok children := by
  obtain ⟨children, read⟩ := exists_forall₂ each
  exact ⟨children, itemsOfJson_eq_ok.mpr read⟩

/-- A value formed by the grammar is read as a filter. -/
theorem exists_ofJson_of_isFilter {value : Json.Value}
    (isFilter : IsFilter value) :
    ∃ filter, Filter.ofJson value = .ok filter := by
  induction isFilter with
  | scalar isScalar =>
      obtain ⟨literal, read⟩ := Literal.ofJson_isOk_iff.mpr isScalar
      rw [ofJson_scalar isScalar]
      exact ⟨_, map_eq_ok.mpr ⟨literal, read, rfl⟩⟩
  | not _ ih =>
      obtain ⟨inner, read⟩ := ih
      exact ⟨_, ofJson_member_eq_ok.mpr (.not read)⟩
  | all _ ih =>
      obtain ⟨children, read⟩ := exists_itemsOfJson ih
      exact ⟨_, ofJson_member_eq_ok.mpr (.all read)⟩
  | any _ ih =>
      obtain ⟨children, read⟩ := exists_itemsOfJson ih
      exact ⟨_, ofJson_member_eq_ok.mpr (.any read)⟩
  | regexp pattern => exact ⟨_, ofJson_member_eq_ok.mpr (.regexp pattern)⟩
  | empty => exact ⟨_, ofJson_member_eq_ok.mpr .empty⟩
  | literal isOperator isScalar =>
      rcases Operator.of_mem_literalOperators isOperator with
        ⟨relation, rfl⟩ | ⟨relation, rfl⟩
      · obtain ⟨literal, read⟩ := Literal.ofJson_isOk_iff.mpr isScalar
        exact ⟨_, ofJson_member_eq_ok.mpr (.comparison read)⟩
      · obtain ⟨literal, read⟩ := Literal.ofJson_isOk_iff.mpr isScalar
        exact ⟨_, ofJson_member_eq_ok.mpr (.containment read)⟩

/-! ## Filters that are not read back -/

/-- A leaf that is read back has no float that is not finite: null is neither a
filter nor the argument of an operator with a literal. -/
theorem isFinite_of_ofJson_toJson_leaf {leaf : Leaf} {received : Filter}
    (read : Filter.ofJson leaf.toJson = .ok received) :
    leaf.isFinite = true := by
  by_contra notFinite
  have notFinite := eq_false_of_ne_true notFinite
  cases leaf with
  | regexp | empty => cases notFinite
  | equals literal =>
      have isNull : literal.toJson = .null := Literal.toJson_eq_null notFinite
      simp [Leaf.toJson, isNull, Filter.ofJson] at read
  | comparison relation literal | containment relation literal =>
      have isNull : literal.toJson = .null := Literal.toJson_eq_null notFinite
      simp [Leaf.toJson, isNull, Filter.ofJson, Operator.ofName?_name,
        Literal.ofJson, Except.map] at read

mutual

/-- A filter that is read back has no float that is not finite. -/
theorem isFinite_of_ofJson_toJson : (filter : Filter) → {received : Filter} →
    Filter.ofJson filter.toJson = .ok received → ∀ leaf ∈ filter.leaves,
    leaf.isFinite = true
  | .leaf single, received, read => by
      intro leaf member
      rw [List.mem_singleton.mp member]
      exact isFinite_of_ofJson_toJson_leaf read
  | .not inner, received, read => by
      simp only [toJson, Filter.ofJson,
        Operator.ofName?_name (by simp : Operator.not ≠ .equals)] at read
      obtain ⟨_, readInner, -⟩ := map_eq_ok.mp read
      exact isFinite_of_ofJson_toJson inner readInner
  | .all children, received, read => by
      simp only [toJson, Filter.ofJson,
        Operator.ofName?_name (by simp : Operator.all ≠ .equals)] at read
      obtain ⟨_, readChildren, -⟩ := map_eq_ok.mp read
      exact areFinite_of_itemsOfJson children readChildren
  | .any children, received, read => by
      simp only [toJson, Filter.ofJson,
        Operator.ofName?_name (by simp : Operator.any ≠ .equals)] at read
      obtain ⟨_, readChildren, -⟩ := map_eq_ok.mp read
      exact areFinite_of_itemsOfJson children readChildren

theorem areFinite_of_itemsOfJson :
    (children : List Filter) → {received : List Filter} →
    itemsOfJson (listToJson children) = .ok received →
    ∀ leaf ∈ leavesOfAll children, leaf.isFinite = true
  | [], received, read => by simp [leavesOfAll]
  | child :: rest, received, read => by
      obtain ⟨_, readChild, later⟩ := bind_eq_ok.mp read
      obtain ⟨_, readRest, -⟩ := bind_eq_ok.mp later
      simp only [leavesOfAll, List.mem_append]
      rintro leaf (member | member)
      · exact isFinite_of_ofJson_toJson child readChild leaf member
      · exact areFinite_of_itemsOfJson rest readRest leaf member

end

/-! ## Reading and writing -/

/-- A filter without networks is read back as it is. -/
theorem exchanged_eq_self {filter : Filter}
    (noNetwork : ∀ leaf ∈ filter.leaves, ∀ network,
      leaf.literal? ≠ some (.inet network)) :
    filter.exchanged = filter := by
  refine mapLiterals_eq_self filter fun leaf member => ?_
  have keeps (literal : Literal) (isLiteral : leaf.literal? = some literal) :
      literal.exchanged = literal := by
    cases literal with
    | inet network => exact absurd isLiteral (noNetwork leaf member network)
    | boolean | integer | float | string => rfl
  cases leaf with
  | regexp | empty => rfl
  | equals literal
  | comparison relation literal
  | containment relation literal =>
      rw [Leaf.mapLiteral, keeps literal rfl]

/-- Writing and reading filters are inverse to each other. What was written is
read back with its networks as texts, and it is not read at all if it has a
float that is not finite. What was read is written as it was, unless it has a
whole number beyond 64 bits with sign. The values that are read are those of the
grammar. -/
theorem ofJson_inverse_toJson :
    (∀ filter : Filter, (∀ leaf ∈ filter.leaves, leaf.isFinite = true) →
      Filter.ofJson filter.toJson = .ok filter.exchanged ∧
        ((∀ leaf ∈ filter.leaves, ∀ network,
          leaf.literal? ≠ some (.inet network)) →
          filter.exchanged = filter)) ∧
    (∀ filter : Filter, (∃ leaf ∈ filter.leaves, leaf.isFinite = false) →
      ∃ failure, Filter.ofJson filter.toJson = .error failure) ∧
    (∀ value filter, Filter.ofJson value = .ok filter →
      (filter.toJson = value ↔ value.isSigned = true)) ∧
    ∀ value, (∃ filter, Filter.ofJson value = .ok filter) ↔ IsFilter value := by
  refine ⟨?_, ?_, ?_, ?_⟩
  · intro filter finite
    exact ⟨ofJson_toJson filter finite, exchanged_eq_self⟩
  · rintro filter ⟨single, member, notFinite⟩
    cases read : Filter.ofJson filter.toJson with
    | error failure => exact ⟨failure, rfl⟩
    | ok received =>
        have finite := isFinite_of_ofJson_toJson filter read single member
        rw [finite] at notFinite
        cases notFinite
  · intro value filter read
    constructor
    · rintro rfl
      exact filter.toJson_isSigned
    · exact toJson_of_ofJson value read
  · intro value
    constructor
    · rintro ⟨filter, read⟩
      exact isFilter_of_ofJson value read
    · exact exists_ofJson_of_isFilter

/-- A network comes back as a text, a float that is not finite does not come
back, and a whole number beyond 64 bits with sign is read but written as a
float. -/
theorem ofJson_inverse_toJson_networks :
    let network : Network := ⟨.v4 ⟨[10, 0, 0, 0], rfl⟩, 8, by decide⟩
    let filter : Filter := .any [.equals (.integer (-3)),
      .not (.leaf (.containment .containedBy (.inet network)))]
    let greatest : Json.Value :=
      .object [("LessThan", .number (.whole ⟨18446744073709551615, by decide⟩))]
    Filter.ofJson filter.toJson = .ok (.any [.equals (.integer (-3)),
      .not (.leaf (.containment .containedBy (.string "10.0.0.0/8")))]) ∧
    (∃ failure,
      Filter.ofJson (Filter.all [filter, .equals (.float .notANumber)]).toJson =
      .error failure) ∧
    ∃ read, Filter.ofJson greatest = .ok read ∧ read.toJson ≠ greatest := by
  intro network filter greatest
  obtain ⟨isReadBack, isRefused, isWritten, isRead⟩ := ofJson_inverse_toJson
  refine ⟨?_, ?_, ?_⟩
  · have networkText : network.toText = "10.0.0.0/8" := by decide
    rw [← networkText]
    refine (isReadBack filter ?_).1
    simp [filter, leaves, leavesOfAll, equals, Leaf.isFinite, Leaf.literal?,
      Literal.isFinite]
  · refine isRefused _ ⟨.equals (.float .notANumber), ?_, rfl⟩
    simp [leaves, leavesOfAll, equals]
  · obtain ⟨read, isOk⟩ :=
      (isRead greatest).mpr (.literal (by decide) (.number _))
    refine ⟨read, isOk, fun same => ?_⟩
    have isSigned := (isWritten greatest read isOk).mp same
    simp [greatest, Json.Value.isSigned,
      Json.Value.haveSignedValues] at isSigned

end Filter

end AttributeQuery
