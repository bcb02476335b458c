import AttributeQuery.Query.Location

/-!
# Compilation of filters

A filter becomes one condition: its leaves are located predicates, and its
combinations are combinations of conditions. Equality filters that stand next to
each other in a disjunction may become one list of values.
-/

namespace AttributeQuery.Filter

/-- A condition that holds for every server. -/
def always : Condition := Condition.raw "NOT (true AND false)"

def never : Condition := Condition.raw "NOT (true OR false)"

def emptyAll (context : Context) : Condition :=
  match context.options.emptyAll with
  | .vacuous => always
  | .unsatisfiable => never

/-- The literal of an equality filter that may become part of a list. -/
def mergeable? (context : Context) (attr : Attribute) : Filter → Option Literal
  | .leaf (.equals literal) =>
      if context.options.mergeEqualities && !attr.isBoolean then some literal
      else none
  | _ => none

/-- The condition of a run of equality filters, if it is not empty. A single one
is compiled by itself. -/
def compileRun (context : Context) (attr : Attribute) (location : Location) :
    List Literal → Except CompileError (List Condition)
  | [] => .ok []
  | [literal] => do
      return [location.apply
        (← Predicate.ofLeaf context attr (.equals literal))]
  | literals => do
      return [location.apply (← Predicate.ofMembership context attr literals)]

mutual

/-- The condition of a filter on an attribute at a location. -/
def compile (context : Context) (attr : Attribute) (location : Location) :
    Filter → Except CompileError Condition
  | .leaf single => do
      return location.apply (← Predicate.ofLeaf context attr single)
  | .not inner => do
      return (← compile context attr location inner).negate
  | .all [] => .ok (emptyAll context)
  | .all (child :: rest) => do
      return Condition.join "AND"
        (← compileAll context attr location (child :: rest))
  | .any [] => .ok never
  | .any (child :: rest) => do
      return Condition.join "OR"
        (← compileAny context attr location [] (child :: rest))

def compileAll (context : Context) (attr : Attribute) (location : Location) :
    List Filter → Except CompileError (List Condition)
  | [] => .ok []
  | child :: rest => do
      let condition ← compile context attr location child
      let conditions ← compileAll context attr location rest
      return condition :: conditions

/-- The conditions of the filters of a disjunction, after a run of equality
filters that stand before them. -/
def compileAny (context : Context) (attr : Attribute) (location : Location)
    (run : List Literal) : List Filter → Except CompileError (List Condition)
  | [] => compileRun context attr location run
  | child :: rest =>
      match child.mergeable? context attr with
      | some literal => compileAny context attr location (run ++ [literal]) rest
      | none => do
          let before ← compileRun context attr location run
          let condition ← compile context attr location child
          let conditions ← compileAny context attr location [] rest
          return before ++ condition :: conditions

end

end AttributeQuery.Filter
