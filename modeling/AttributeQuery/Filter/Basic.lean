import AttributeQuery.Filter.Literal

/-!
# Filters

A filter is a condition on the values of one attribute: a leaf, or a logical
combination of filters. `Operator` names the kinds of filters.
-/

namespace AttributeQuery

inductive Comparison where
  | greaterThan
  | lessThan
  | greaterThanOrEquals
  | lessThanOrEquals
  deriving BEq, DecidableEq, Repr

inductive Containment where
  | startsWith
  | contains
  | containedBy
  | containedOnlyBy
  | overlaps
  deriving BEq, DecidableEq, Repr

/-- A condition that is not made of others. -/
inductive Leaf where
  | equals (literal : Literal)
  | comparison (relation : Comparison) (literal : Literal)
  | regexp (pattern : String)
  | empty
  | containment (relation : Containment) (literal : Literal)
  deriving DecidableEq

/-- A condition on the values of one attribute. -/
inductive Filter where
  | leaf (leaf : Leaf)
  | not (inner : Filter)
  | all (children : List Filter)
  | any (children : List Filter)

inductive Operator where
  | equals
  | not
  | all
  | any
  | comparison (relation : Comparison)
  | regexp
  | empty
  | containment (relation : Containment)
  deriving BEq, DecidableEq, Repr

namespace Operator

/-- The name of an operator in the exchange format and in messages. -/
def name : Operator → String
  | .equals => "Equals"
  | .not => "Not"
  | .all => "All"
  | .any => "Any"
  | .comparison .greaterThan => "GreaterThan"
  | .comparison .lessThan => "LessThan"
  | .comparison .greaterThanOrEquals => "GreaterThanOrEquals"
  | .comparison .lessThanOrEquals => "LessThanOrEquals"
  | .regexp => "Regexp"
  | .empty => "Empty"
  | .containment .startsWith => "StartsWith"
  | .containment .contains => "Contains"
  | .containment .containedBy => "ContainedBy"
  | .containment .containedOnlyBy => "ContainedOnlyBy"
  | .containment .overlaps => "Overlaps"

/-- The operators that are written by name. Equality is written as its bare
operand. -/
def named : List Operator :=
  [.not, .all, .any, .regexp, .empty,
    .comparison .greaterThan, .comparison .lessThan,
    .comparison .greaterThanOrEquals, .comparison .lessThanOrEquals,
    .containment .startsWith, .containment .contains, .containment .containedBy,
    .containment .containedOnlyBy, .containment .overlaps]

def ofName? (name : String) : Option Operator :=
  named.find? (·.name = name)

end Operator

namespace Leaf

def operator : Leaf → Operator
  | .equals _ => .equals
  | .comparison relation _ => .comparison relation
  | .regexp _ => .regexp
  | .empty => .empty
  | .containment relation _ => .containment relation

/-- Equality of leaves, floats being compared as numbers. -/
def same : Leaf → Leaf → Bool
  | .equals literal, .equals other => literal.same other
  | .comparison relation literal, .comparison otherRelation other =>
      relation = otherRelation && literal.same other
  | .regexp pattern, .regexp other => pattern = other
  | .empty, .empty => true
  | .containment relation literal, .containment otherRelation other =>
      relation = otherRelation && literal.same other
  | _, _ => false

end Leaf

namespace Filter

def operator : Filter → Operator
  | .leaf single => single.operator
  | .not _ => .not
  | .all _ => .all
  | .any _ => .any

def equals (literal : Literal) : Filter := .leaf (.equals literal)

def isComposite : Filter → Bool
  | .leaf _ => false
  | _ => true

mutual

/-- The leaves of a filter, in the order written. -/
def leaves : Filter → List Leaf
  | .leaf single => [single]
  | .not inner => inner.leaves
  | .all children => leavesOfAll children
  | .any children => leavesOfAll children

def leavesOfAll : List Filter → List Leaf
  | [] => []
  | child :: rest => child.leaves ++ leavesOfAll rest

end

mutual

def same : Filter → Filter → Bool
  | .leaf single, .leaf other => single.same other
  | .not inner, .not other => inner.same other
  | .all children, .all others => sameList children others
  | .any children, .any others => sameList children others
  | _, _ => false

def sameList : List Filter → List Filter → Bool
  | [], [] => true
  | child :: rest, other :: others => child.same other && sameList rest others
  | _, _ => false

end

end Filter

end AttributeQuery
