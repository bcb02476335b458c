import AttributeQuery.Proofs.Sql.Token

/-!
# Conditions as expressions

What a condition of a statement says, apart from its text. A condition is true,
false or unknown on a row, and it is read with the rows of all queries it stands
in. A database gives the rows of its tables and says what the operators and
functions of the dialect compute; nothing else about them is fixed here.
-/

namespace AttributeQuery.Sql

/-- A truth value. -/
inductive Truth where
  | no
  | unknown
  | yes
  deriving DecidableEq, Repr

namespace Truth

/-- The truth value of a comparison that cannot be unknown. -/
def ofBool : Bool → Truth
  | true => .yes
  | false => .no

def not : Truth → Truth
  | .no => .yes
  | .unknown => .unknown
  | .yes => .no

def and : Truth → Truth → Truth
  | .no, _ => .no
  | _, .no => .no
  | .yes, .yes => .yes
  | _, _ => .unknown

def or : Truth → Truth → Truth
  | .yes, _ => .yes
  | _, .yes => .yes
  | .no, .no => .no
  | _, _ => .unknown

/-- The conjunction of truth values. -/
def all (truths : List Truth) : Truth :=
  truths.foldr and .yes

/-- The disjunction of truth values. -/
def any (truths : List Truth) : Truth :=
  truths.foldr or .no

@[simp] theorem yes_and (truth : Truth) : yes.and truth = truth := by
  cases truth <;> rfl

@[simp] theorem and_yes (truth : Truth) : truth.and yes = truth := by
  cases truth <;> rfl

@[simp] theorem no_and (truth : Truth) : no.and truth = no := rfl

@[simp] theorem and_no (truth : Truth) : truth.and no = no := by
  cases truth <;> rfl

@[simp] theorem no_or (truth : Truth) : no.or truth = truth := by
  cases truth <;> rfl

@[simp] theorem or_no (truth : Truth) : truth.or no = truth := by
  cases truth <;> rfl

@[simp] theorem yes_or (truth : Truth) : yes.or truth = yes := rfl

@[simp] theorem or_yes (truth : Truth) : truth.or yes = yes := by
  cases truth <;> rfl

theorem and_assoc (first second third : Truth) :
    (first.and second).and third = first.and (second.and third) := by
  cases first <;> cases second <;> cases third <;> rfl

theorem or_assoc (first second third : Truth) :
    (first.or second).or third = first.or (second.or third) := by
  cases first <;> cases second <;> cases third <;> rfl

theorem and_eq_yes {first second : Truth} :
    first.and second = .yes ↔ first = .yes ∧ second = .yes := by
  cases first <;> cases second <;> decide

theorem or_eq_yes {first second : Truth} :
    first.or second = .yes ↔ first = .yes ∨ second = .yes := by
  cases first <;> cases second <;> decide

@[simp] theorem ofBool_eq_yes {value : Bool} :
    ofBool value = .yes ↔ value = true := by
  cases value <;> decide

theorem ofBool_or (first second : Bool) :
    ofBool (first || second) = (ofBool first).or (ofBool second) := by
  cases first <;> cases second <;> rfl

@[simp] theorem all_nil : all [] = .yes := rfl

@[simp] theorem all_cons (truth : Truth) (rest : List Truth) :
    all (truth :: rest) = truth.and (all rest) := rfl

@[simp] theorem any_nil : any [] = .no := rfl

@[simp] theorem any_cons (truth : Truth) (rest : List Truth) :
    any (truth :: rest) = truth.or (any rest) := rfl

theorem all_append (first second : List Truth) :
    all (first ++ second) = (all first).and (all second) := by
  induction first with
  | nil => simp
  | cons truth rest ih => simp [ih, and_assoc]

theorem any_append (first second : List Truth) :
    any (first ++ second) = (any first).or (any second) := by
  induction first with
  | nil => simp
  | cons truth rest ih => simp [ih, or_assoc]

theorem all_flatten (lists : List (List Truth)) :
    all lists.flatten = all (lists.map all) := by
  induction lists with
  | nil => rfl
  | cons list rest ih => simp [all_append, ih]

theorem all_eq_yes {truths : List Truth} :
    all truths = .yes ↔ ∀ truth ∈ truths, truth = .yes := by
  induction truths with
  | nil => simp
  | cons truth rest ih => simp [and_eq_yes, ih]

theorem any_eq_yes {truths : List Truth} :
    any truths = .yes ↔ .yes ∈ truths := by
  induction truths with
  | nil => simp
  | cons truth rest ih => rw [any_cons, or_eq_yes, ih, List.mem_cons, eq_comm]

theorem foldl_and (truths : List Truth) (start : Truth) :
    truths.foldl and start = start.and (all truths) := by
  induction truths generalizing start with
  | nil => simp
  | cons truth rest ih => simp [ih, and_assoc]

theorem foldl_or (truths : List Truth) (start : Truth) :
    truths.foldl or start = start.or (any truths) := by
  induction truths generalizing start with
  | nil => simp
  | cons truth rest ih => simp [ih, or_assoc]

end Truth

/-- What an operator is applied to. -/
inductive Operand where
  /-- A column of the row that a qualifier names. -/
  | column (qualifier name : String)
  | bound (value : SqlValue)
  | number (value : Int)
  | quoted (text : String)
  | call (function : String) (arguments : List Operand)
  | cast (operand : Operand) (type : String)

/-- The values of a column in the rows of a table for which a comparison of
another column holds. -/
structure Selection where
  column : String
  table : String
  tested : String
  symbol : String
  operand : Operand

/-- What a condition says. -/
inductive Expression where
  | constant (value : Bool)
  /-- That an operand is true. -/
  | isTrue (operand : Operand)
  | isPresent (operand : Operand)
  | compare (symbol : String) (left right : Operand)
  | like (subject pattern : Operand) (escape : String)
  | inList (subject : Operand) (members : List Operand)
  | inRows (subject : Operand) (selection : Selection)
  /-- That a table has a row that meets a condition; the condition has a name
  for the row. -/
  | hasRow (table rowName : String) (body : Expression)
  | not (inner : Expression)
  | and (left right : Expression)
  | or (left right : Expression)

namespace Expression

/-- Conditions that all have to hold, the operator grouping to the left. -/
def allOf : List Expression → Expression
  | [] => .constant true
  | first :: rest => rest.foldl .and first

/-- Conditions of which one has to hold, the operator grouping to the left. -/
def anyOf : List Expression → Expression
  | [] => .constant false
  | first :: rest => rest.foldl .or first

end Expression

/-- The values of the columns of a row; a column without a value is null. -/
abbrev Row (Value : Type) := String → Option Value

/-- The rows that a condition can name, the innermost first. -/
abbrev Scopes (Value : Type) := List (String × Row Value)

/-- The value of a column of the innermost row of a name. -/
def Scopes.read {Value : Type} (scopes : Scopes Value)
    (qualifier column : String) : Option Value :=
  match scopes.find? (·.1 = qualifier) with
  | some (_, row) => row column
  | none => none

section Scopes

variable {Value : Type} {qualifier name : String} (row : Row Value)
  (scopes : Scopes Value) (column : String)

@[simp] theorem Scopes.read_cons_self :
    Scopes.read ((name, row) :: scopes) name column = row column := by
  simp [Scopes.read]

/-- A row of another name is passed over. -/
theorem Scopes.read_cons_of_ne (differs : qualifier ≠ name) :
    Scopes.read ((name, row) :: scopes) qualifier column =
      scopes.read qualifier column := by
  simp [Scopes.read, differs.symm]

end Scopes

/-- A database: the rows of its tables, and what is computed from values. An
operator has no result for null. -/
structure Database (Value : Type) where
  rows : String → List (Row Value)
  text : String → Value
  number : Int → Value
  cast : String → Option Value → Option Value
  call : String → List (Option Value) → Option Value
  compare : String → Value → Value → Truth
  like : String → Value → Value → Truth
  isTrue : Value → Truth

namespace Database

variable {Value : Type} (database : Database Value)

/-- The value that is bound for a parameter. -/
def bound : SqlValue → Value
  | .text value => database.text value
  | .integer value => database.number value.toInt

/-- The truth of a relation of values, which is unknown where one is null. -/
def strictly (relation : Value → Value → Truth) :
    Option Value → Option Value → Truth
  | some left, some right => relation left right
  | _, _ => .unknown

end Database

/-- A text or a number, as a value of a simple database. -/
inductive PlainValue where
  | text (value : String)
  | number (value : Int)
  deriving DecidableEq, Repr

/-- A database of texts and numbers that are compared for equality; nothing is
known about other operators, and functions have no value. -/
def Database.plain (rows : String → List (Row PlainValue)) :
    Database PlainValue where
  rows := rows
  text := .text
  number := .number
  cast _ value := value
  call _ _ := none
  compare symbol left right :=
    if symbol = "=" then .ofBool (left = right) else .unknown
  like _ _ _ := .unknown
  isTrue value := .ofBool (value = .number 1)

variable {Value : Type} (database : Database Value)

mutual

/-- The value of an operand. -/
def Operand.value (scopes : Scopes Value) : Operand → Option Value
  | .column qualifier name => scopes.read qualifier name
  | .bound value => some (database.bound value)
  | .number value => some (database.number value)
  | .quoted text => some (database.text text)
  | .call function arguments =>
      database.call function (Operand.values scopes arguments)
  | .cast operand type => database.cast type (operand.value scopes)

/-- The values of operands. -/
def Operand.values (scopes : Scopes Value) : List Operand → List (Option Value)
  | [] => []
  | operand :: rest => operand.value scopes :: Operand.values scopes rest

end

/-- The truth of a comparison of operands. -/
def Operand.compared (scopes : Scopes Value) (symbol : String)
    (left right : Operand) : Truth :=
  Database.strictly (database.compare symbol) (left.value database scopes)
    (right.value database scopes)

/-- The values of a selection. -/
def Selection.values (scopes : Scopes Value) (selection : Selection) :
    List (Option Value) :=
  let isSelected (row : Row Value) : Bool :=
    Database.strictly (database.compare selection.symbol) (row selection.tested)
      (selection.operand.value database scopes) = .yes
  ((database.rows selection.table).filter isSelected).map (· selection.column)

namespace Expression

/-- The truth of a condition on the rows it can name. -/
def truth (scopes : Scopes Value) : Expression → Truth
  | .constant value => .ofBool value
  | .isTrue operand =>
      match operand.value database scopes with
      | some value => database.isTrue value
      | none => .unknown
  | .isPresent operand => .ofBool (operand.value database scopes).isSome
  | .compare symbol left right =>
      Operand.compared database scopes symbol left right
  | .like subject pattern escape =>
      Database.strictly (database.like escape) (subject.value database scopes)
        (pattern.value database scopes)
  | .inList subject members =>
      .any (members.map fun member =>
        Operand.compared database scopes "=" subject member)
  | .inRows subject selection =>
      .any ((selection.values database scopes).map fun value =>
        Database.strictly (database.compare "=")
          (subject.value database scopes) value)
  | .hasRow table rowName body =>
      .ofBool ((database.rows table).any fun row =>
        body.truth ((rowName, row) :: scopes) = .yes)
  | .not inner => (inner.truth scopes).not
  | .and left right => (left.truth scopes).and (right.truth scopes)
  | .or left right => (left.truth scopes).or (right.truth scopes)

variable (scopes : Scopes Value)

theorem truth_allOf (parts : List Expression) :
    (allOf parts).truth database scopes =
      .all (parts.map fun part => part.truth database scopes) := by
  cases parts with
  | nil => rfl
  | cons first rest =>
      have folded : (allOf (first :: rest)).truth database scopes =
          (rest.map fun part => part.truth database scopes).foldl .and
            (first.truth database scopes) := by
        rw [allOf, List.foldl_map]
        exact (List.foldl_hom (truth database scopes) fun _ _ => rfl).symm
      rw [folded, Truth.foldl_and, List.map_cons, Truth.all_cons]

theorem truth_anyOf (parts : List Expression) :
    (anyOf parts).truth database scopes =
      .any (parts.map fun part => part.truth database scopes) := by
  cases parts with
  | nil => rfl
  | cons first rest =>
      have folded : (anyOf (first :: rest)).truth database scopes =
          (rest.map fun part => part.truth database scopes).foldl .or
            (first.truth database scopes) := by
        rw [anyOf, List.foldl_map]
        exact (List.foldl_hom (truth database scopes) fun _ _ => rfl).symm
      rw [folded, Truth.foldl_or, List.map_cons, Truth.any_cons]

/-- All of some conditions are true. -/
def AllHold (parts : List Expression) : Prop :=
  ∀ part ∈ parts, part.truth database scopes = .yes

variable {database scopes} {first : Expression} {rest others : List Expression}

@[simp] theorem allHold_cons : AllHold database scopes (first :: rest) ↔
    first.truth database scopes = .yes ∧ AllHold database scopes rest := by
  simp [AllHold]

@[simp] theorem allHold_nil : AllHold database scopes [] := by
  simp [AllHold]

theorem allHold_singleton :
    AllHold database scopes [first] ↔ first.truth database scopes = .yes := by
  simp

@[simp] theorem allHold_append : AllHold database scopes (rest ++ others) ↔
    AllHold database scopes rest ∧ AllHold database scopes others := by
  simp [AllHold, or_imp, forall_and]

theorem all_eq_yes_iff_allHold :
    Truth.all (rest.map fun part => part.truth database scopes) =
    .yes ↔ AllHold database scopes rest := by
  simp [AllHold, Truth.all_eq_yes]

/-- A table has a row that meets conditions if they all hold with one of its
rows. -/
theorem truth_hasRow {table rowName : String} :
    (hasRow table rowName (allOf rest)).truth database scopes = .yes ↔
      ∃ row ∈ database.rows table,
      AllHold database ((rowName, row) :: scopes) rest := by
  simp [truth, truth_allOf, all_eq_yes_iff_allHold]

theorem allHold_hasRow {table rowName : String} :
    AllHold database scopes [hasRow table rowName (allOf rest)] ↔
      ∃ row ∈ database.rows table,
      AllHold database ((rowName, row) :: scopes) rest :=
  allHold_singleton.trans truth_hasRow

end Expression

end AttributeQuery.Sql
