import Mathlib
import AttributeQuery.Filter.Exchange

/-!
# Filters sent in the exchange format

A filter is read back as it was written, except that its networks come back as
texts. Only floats that are not finite cannot be read back.
-/

namespace AttributeQuery

/-! ## Literals of filters -/

/-- A leaf with its literal changed. -/
def Leaf.mapLiteral (change : Literal → Literal) : Leaf → Leaf
  | .equals literal => .equals (change literal)
  | .comparison relation literal => .comparison relation (change literal)
  | .regexp pattern => .regexp pattern
  | .empty => .empty
  | .containment relation literal => .containment relation (change literal)

/-- The literal of a leaf, if it has one. -/
def Leaf.literal? : Leaf → Option Literal
  | .equals literal => some literal
  | .comparison _ literal => some literal
  | .regexp _ => none
  | .empty => none
  | .containment _ literal => some literal

namespace Filter

mutual

/-- A filter with all its literals changed. -/
def mapLiterals (change : Literal → Literal) : Filter → Filter
  | .leaf single => .leaf (single.mapLiteral change)
  | .not inner => .not (inner.mapLiterals change)
  | .all children => .all (mapLiteralsOfAll change children)
  | .any children => .any (mapLiteralsOfAll change children)

/-- Filters with all their literals changed. -/
def mapLiteralsOfAll (change : Literal → Literal) : List Filter → List Filter
  | [] => []
  | child :: rest => child.mapLiterals change :: mapLiteralsOfAll change rest

end

end Filter

mutual

/-- A filter is unchanged when all its leaves are. -/
theorem Filter.mapLiterals_eq_self {change : Literal → Literal} :
    (filter : Filter) →
    (∀ leaf ∈ filter.leaves, leaf.mapLiteral change = leaf) →
    filter.mapLiterals change = filter
  | .leaf single, unchanged => by
      rw [mapLiterals, unchanged single List.mem_cons_self]
  | .not inner, unchanged => by
      rw [mapLiterals, Filter.mapLiterals_eq_self inner unchanged]
  | .all children, unchanged => by
      rw [mapLiterals, Filter.mapLiteralsOfAll_eq_self children unchanged]
  | .any children, unchanged => by
      rw [mapLiterals, Filter.mapLiteralsOfAll_eq_self children unchanged]

theorem Filter.mapLiteralsOfAll_eq_self {change : Literal → Literal} :
    (children : List Filter) →
    (∀ leaf ∈ Filter.leavesOfAll children, leaf.mapLiteral change = leaf) →
    Filter.mapLiteralsOfAll change children = children
  | [], unchanged => rfl
  | child :: rest, unchanged => by
      simp only [leavesOfAll, List.mem_append] at unchanged
      rw [mapLiteralsOfAll,
        Filter.mapLiterals_eq_self child fun leaf member =>
          unchanged leaf (.inl member),
        Filter.mapLiteralsOfAll_eq_self rest fun leaf member =>
          unchanged leaf (.inr member)]

end

theorem Leaf.mapLiteral_id (leaf : Leaf) : leaf.mapLiteral id = leaf := by
  cases leaf <;> rfl

theorem Filter.mapLiterals_id (filter : Filter) :
    filter.mapLiterals id = filter :=
  filter.mapLiterals_eq_self fun leaf _ => leaf.mapLiteral_id

/-! ## Literals read back -/

namespace Literal

/-- What a literal is read back as: networks come back as texts. -/
def exchanged : Literal → Literal
  | .boolean value => .boolean value
  | .integer value => .integer value
  | .float value => .float value
  | .string text => .string text
  | .inet network => .string network.toText

/-- Whether a literal is written as a scalar: all are but floats that are not
finite. -/
def isFinite : Literal → Bool
  | .float value => value.isFinite
  | _ => true

theorem ofNumber_ofInt64 (value : Int64) :
    ofNumber (.whole (Json.WholeNumber.ofInt64 value)) = .integer value := by
  have bounded : (Json.WholeNumber.ofInt64 value).val < 0x8000000000000000 :=
    value.toInt_lt
  rw [ofNumber, if_pos bounded, Json.WholeNumber.ofInt64, Int64.ofInt_toInt]

/-- A finite literal is read back. -/
theorem ofJson_toJson (operator : Operator) {literal : Literal}
    (isFinite : literal.isFinite = true) :
    ofJson operator literal.toJson = .ok literal.exchanged := by
  cases literal with
  | boolean value => rfl
  | integer value => rw [toJson, ofJson, ofNumber_ofInt64, exchanged]
  | float value =>
      cases value with
      | finite negative magnitude => rfl
      | infinite | notANumber => cases isFinite
  | string text => rfl
  | inet network => rfl

end Literal

/-! ## Filters read back -/

/-- Every operator but equality is found by its name. -/
theorem Operator.ofName?_name {operator : Operator}
    (isNamed : operator ≠ .equals) :
    ofName? operator.name = some operator := by
  cases operator with
  | equals => exact absurd rfl isNamed
  | comparison relation => cases relation <;> decide
  | containment relation => cases relation <;> decide
  | not | all | any | regexp | empty => decide

/-- What a leaf is read back as: its network comes back as a text. -/
def Leaf.exchanged (leaf : Leaf) : Leaf :=
  leaf.mapLiteral Literal.exchanged

/-- Whether a leaf has no float that is not finite. -/
def Leaf.isFinite (leaf : Leaf) : Bool :=
  leaf.literal?.all Literal.isFinite

namespace Filter

/-- What a filter is read back as: its networks come back as texts. -/
def exchanged (filter : Filter) : Filter :=
  filter.mapLiterals Literal.exchanged

/-- A finite literal is read back as an equality. -/
theorem ofJson_toJson_literal {literal : Literal}
    (isFinite : literal.isFinite = true) :
    Filter.ofJson literal.toJson = .ok (.equals literal.exchanged) := by
  have readBack := Literal.ofJson_toJson .equals isFinite
  have scalar : Filter.ofJson literal.toJson =
      (Literal.ofJson .equals literal.toJson).map equals := by
    cases literal with
    | boolean | integer | string | inet => simp [Literal.toJson, Filter.ofJson]
    | float value =>
        cases value with
        | finite => simp [Literal.toJson, Filter.ofJson]
        | infinite | notANumber => cases isFinite
  rw [scalar, readBack]
  rfl

/-- An object is read as the operator that its only member names. -/
theorem ofJson_toJson_leaf {leaf : Leaf} (isFinite : leaf.isFinite = true) :
    Filter.ofJson leaf.toJson = .ok (.leaf leaf.exchanged) := by
  cases leaf with
  | equals literal => exact ofJson_toJson_literal isFinite
  | comparison relation literal =>
      simp [Leaf.toJson, Filter.ofJson, Operator.ofName?_name,
        Literal.ofJson_toJson _ isFinite]
      rfl
  | regexp pattern =>
      simp [Leaf.toJson, Filter.ofJson, Operator.ofName?_name]
      rfl
  | empty =>
      simp [Leaf.toJson, Filter.ofJson, Operator.ofName?_name]
      rfl
  | containment relation literal =>
      simp [Leaf.toJson, Filter.ofJson, Operator.ofName?_name,
        Literal.ofJson_toJson _ isFinite]
      rfl

mutual

/-- A filter without floats that are not finite is read back with its networks
as texts. -/
theorem ofJson_toJson :
    (filter : Filter) → (∀ leaf ∈ filter.leaves, leaf.isFinite = true) →
    Filter.ofJson filter.toJson = .ok filter.exchanged
  | .leaf single, finite =>
      ofJson_toJson_leaf (finite single List.mem_cons_self)
  | .not inner, finite => by
      have readBack := ofJson_toJson inner finite
      simp [toJson, Filter.ofJson, Operator.ofName?_name, readBack]
      rfl
  | .all children, finite => by
      have readBack := itemsOfJson_listToJson children finite
      simp [toJson, Filter.ofJson, listOfJson, Operator.ofName?_name, readBack]
      rfl
  | .any children, finite => by
      have readBack := itemsOfJson_listToJson children finite
      simp [toJson, Filter.ofJson, listOfJson, Operator.ofName?_name, readBack]
      rfl

theorem itemsOfJson_listToJson : (children : List Filter) →
    (∀ leaf ∈ leavesOfAll children, leaf.isFinite = true) →
    itemsOfJson (listToJson children) =
      .ok (mapLiteralsOfAll Literal.exchanged children)
  | [], finite => rfl
  | child :: rest, finite => by
      simp only [leavesOfAll, List.mem_append] at finite
      have readChild :=
        ofJson_toJson child fun leaf member => finite leaf (.inl member)
      have readRest :=
        itemsOfJson_listToJson rest fun leaf member => finite leaf (.inr member)
      simp only [listToJson, itemsOfJson, readChild, readRest]
      rfl

end

end Filter

end AttributeQuery
