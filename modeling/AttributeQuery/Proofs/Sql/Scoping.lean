import AttributeQuery.Proofs.Sql.Operands
import AttributeQuery.Proofs.Success

/-!
# Names in scope

A condition names the rows of the queries that it stands in. Each query of
EXISTS gives a name to its row, which can be used inside that query only. A
condition is in scope when every column that it reads is one of a row that has a
name there, and when the names at each query in it are as they should be.
-/

namespace AttributeQuery

namespace Sql

/-- The columns that an operand reads are those of rows with some names. -/
inductive Operand.ReadsFrom (names : List String) : Operand → Prop where
  | column {qualifier : String} (name : String) (isName : qualifier ∈ names) :
      ReadsFrom names (.column qualifier name)
  | bound (value : SqlValue) : ReadsFrom names (.bound value)
  | number (value : Int) : ReadsFrom names (.number value)
  | quoted (text : String) : ReadsFrom names (.quoted text)
  | call (function : String) {arguments : List Operand}
      (each : ∀ argument ∈ arguments, argument.ReadsFrom names) :
      ReadsFrom names (.call function arguments)
  | cast {operand : Operand} (type : String) (reads : operand.ReadsFrom names) :
      ReadsFrom names (.cast operand type)

theorem Operand.ReadsFrom.boundAs {names : List String} (type : Option String)
    (value : SqlValue) : (Operand.boundAs type value).ReadsFrom names := by
  cases type with
  | none => exact .bound value
  | some type => exact .cast type (.bound value)

theorem Operand.ReadsFrom.mono {names others : List String} {operand : Operand}
    (reads : operand.ReadsFrom names) (more : names ⊆ others) :
    operand.ReadsFrom others := by
  induction reads with
  | column name isName => exact .column name (more isName)
  | bound value => exact .bound value
  | number value => exact .number value
  | quoted text => exact .quoted text
  | call function _ ih => exact .call function ih
  | cast type _ ih => exact .cast type ih

/-- A condition that stands in queries whose rows have some names, the innermost
first, reads columns of these rows only. A query in it adds the name of its row,
and all names are then as they should be. -/
inductive Expression.IsScoped (IsScope : List String → Prop) :
    List String → Expression → Prop
  | constant {names : List String} (value : Bool) :
      IsScoped IsScope names (.constant value)
  | isTrue {names : List String} {operand : Operand}
      (reads : operand.ReadsFrom names) :
      IsScoped IsScope names (.isTrue operand)
  | isPresent {names : List String} {operand : Operand}
      (reads : operand.ReadsFrom names) :
      IsScoped IsScope names (.isPresent operand)
  | compare {names : List String} (symbol : String) {left right : Operand}
      (readsLeft : left.ReadsFrom names) (readsRight : right.ReadsFrom names) :
      IsScoped IsScope names (.compare symbol left right)
  | like {names : List String} {subject pattern : Operand} (escape : String)
      (readsSubject : subject.ReadsFrom names)
      (readsPattern : pattern.ReadsFrom names) :
      IsScoped IsScope names (.like subject pattern escape)
  | inList {names : List String} {subject : Operand} {members : List Operand}
      (readsSubject : subject.ReadsFrom names)
      (readsMembers : ∀ member ∈ members, member.ReadsFrom names) :
      IsScoped IsScope names (.inList subject members)
  | inRows {names : List String} {subject : Operand} {selection : Selection}
      (readsSubject : subject.ReadsFrom names)
      (readsOperand : selection.operand.ReadsFrom names) :
      IsScoped IsScope names (.inRows subject selection)
  | hasRow {names : List String} (table : String) {rowName : String}
      {body : Expression} (isScope : IsScope (rowName :: names))
      (inScope : body.IsScoped IsScope (rowName :: names)) :
      IsScoped IsScope names (.hasRow table rowName body)
  | not {names : List String} {inner : Expression}
      (inScope : inner.IsScoped IsScope names) :
      IsScoped IsScope names (.not inner)
  | and {names : List String} {left right : Expression}
      (leftInScope : left.IsScoped IsScope names)
      (rightInScope : right.IsScoped IsScope names) :
      IsScoped IsScope names (.and left right)
  | or {names : List String} {left right : Expression}
      (leftInScope : left.IsScoped IsScope names)
      (rightInScope : right.IsScoped IsScope names) :
      IsScoped IsScope names (.or left right)

namespace Expression.IsScoped

variable {IsScope : List String → Prop} {names : List String}
  {parts : List Expression}

/-- Conditions that are put together one after the other are in scope when they
all are. -/
theorem foldl {combine : Expression → Expression → Expression}
    (combined : ∀ {left right : Expression}, left.IsScoped IsScope names →
      right.IsScoped IsScope names →
      (combine left right).IsScoped IsScope names)
    {start : Expression} (inScope : start.IsScoped IsScope names)
    (each : ∀ part ∈ parts, part.IsScoped IsScope names) :
    (parts.foldl combine start).IsScoped IsScope names := by
  induction parts generalizing start with
  | nil => exact inScope
  | cons first rest ih =>
      obtain ⟨firstInScope, restInScope⟩ := List.forall_mem_cons.mp each
      exact ih (combined inScope firstInScope) restInScope

theorem allOf (each : ∀ part ∈ parts, part.IsScoped IsScope names) :
    (allOf parts).IsScoped IsScope names := by
  cases parts with
  | nil => exact .constant true
  | cons first rest =>
      obtain ⟨firstInScope, restInScope⟩ := List.forall_mem_cons.mp each
      exact foldl .and firstInScope restInScope

theorem anyOf (each : ∀ part ∈ parts, part.IsScoped IsScope names) :
    (anyOf parts).IsScoped IsScope names := by
  cases parts with
  | nil => exact .constant false
  | cons first rest =>
      obtain ⟨firstInScope, restInScope⟩ := List.forall_mem_cons.mp each
      exact foldl .or firstInScope restInScope

end Expression.IsScoped

end Sql

/-! ## Conditions -/

namespace Condition

open Sql

variable {IsScope : List String → Prop} {names : List String}
variable {condition : Condition} {conditions : List Condition}

/-- What a condition states is in scope. -/
def IsScoped (IsScope : List String → Prop) (names : List String)
    (condition : Condition) : Prop :=
  ∃ parts, condition.States parts ∧ ∀ part ∈ parts, part.IsScoped IsScope names

theorem IsScoped.single {part : Expression} (states : condition.States [part])
    (inScope : part.IsScoped IsScope names) :
    condition.IsScoped IsScope names :=
  ⟨[part], states, List.forall_mem_singleton.mpr inScope⟩

/-- What is read of a condition in scope is in scope. -/
theorem IsScoped.expression? (inScope : condition.IsScoped IsScope names)
    (dialect : Dialect) :
    ∃ expression, condition.expression? dialect = some expression ∧
      expression.IsScoped IsScope names := by
  obtain ⟨parts, states, each⟩ := inScope
  exact ⟨_, states.expression? dialect, .allOf each⟩

/-- What conditions in scope state is in scope. -/
theorem exists_stateAll_of_isScoped
    (each : ∀ condition ∈ conditions, condition.IsScoped IsScope names) :
    ∃ partLists, StateAll conditions partLists ∧
      ∀ parts ∈ partLists, ∀ part ∈ parts, part.IsScoped IsScope names := by
  obtain ⟨partLists, related⟩ := exists_forall₂ each
  refine ⟨partLists, related.imp fun _ _ stated => stated.1, ?_⟩
  intro parts member
  obtain ⟨_, -, -, inScope⟩ := exists_of_forall₂_right related member
  exact inScope

theorem IsScoped.negate (inScope : condition.IsScoped IsScope names) :
    condition.negate.IsScoped IsScope names := by
  obtain ⟨parts, states, each⟩ := inScope
  exact .single states.negate (.not (.allOf each))

/-- Conditions in scope are joined to one in scope. -/
theorem IsScoped.join {operator : String}
    (isOperator : operator = "AND" ∨ operator = "OR") (isSome : conditions ≠ [])
    (each : ∀ condition ∈ conditions, condition.IsScoped IsScope names) :
    (Condition.join operator conditions).IsScoped IsScope names := by
  obtain ⟨partLists, stated, inScope⟩ := exists_stateAll_of_isScoped each
  obtain ⟨first, rest, rfl⟩ := List.exists_cons_of_ne_nil isSome
  rcases isOperator with rfl | rfl
  · refine .single (states_join_and stated) (.allOf fun part member => ?_)
    obtain ⟨parts, isList, isPart⟩ := List.mem_flatten.mp member
    exact inScope parts isList part isPart
  · refine .single (states_join_or stated) (.anyOf fun whole member => ?_)
    obtain ⟨parts, isList, rfl⟩ := List.mem_map.mp member
    exact .allOf (inScope parts isList)

end Condition

end AttributeQuery
