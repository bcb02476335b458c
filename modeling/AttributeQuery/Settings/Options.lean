import AttributeQuery.Document.Basic
import AttributeQuery.Text.Ascii

/-!
# Compiler options

The options of the query compiler, and layers of them in which every option may
be unset. A later layer wins option by option.
-/

namespace AttributeQuery

inductive Dialect where
  | postgres
  | sqlite
  deriving BEq, DecidableEq, Repr

/-- Whether an empty conjunction holds for every server or for none. -/
inductive EmptyAll where
  | vacuous
  | unsatisfiable
  deriving BEq, DecidableEq, Repr

/-- A text that names none of the choices of an option. -/
inductive UnknownChoice where
  | dialect (text : String)
  | emptyAll (text : String)
  deriving BEq, DecidableEq, Repr

def UnknownChoice.message : UnknownChoice → String
  | .dialect text => "unknown dialect: " ++ text
  | .emptyAll text => "unknown empty All() semantics: " ++ text

namespace Dialect

def name : Dialect → String
  | .postgres => "postgres"
  | .sqlite => "sqlite"

/-- The dialect with exactly the given name. -/
def ofName? (name : String) : Option Dialect :=
  [Dialect.postgres, .sqlite].find? (·.name = name)

/-- Read a dialect in any case of its letters and under its other name. -/
def read (text : String) : Except UnknownChoice Dialect :=
  let lowered := Text.Ascii.lower text
  if lowered = "postgresql" then .ok .postgres
  else match ofName? lowered with
    | some dialect => .ok dialect
    | none => .error (.dialect text)

end Dialect

namespace EmptyAll

def name : EmptyAll → String
  | .vacuous => "vacuous"
  | .unsatisfiable => "unsatisfiable"

def ofName? (name : String) : Option EmptyAll :=
  [EmptyAll.vacuous, .unsatisfiable].find? (·.name = name)

/-- Read a choice in any case of its letters, or as the truth value of an empty
conjunction. -/
def read (text : String) : Except UnknownChoice EmptyAll :=
  let lowered := Text.Ascii.lower text
  if lowered = "true" then .ok .vacuous
  else if lowered = "false" then .ok .unsatisfiable
  else match ofName? lowered with
    | some choice => .ok choice
    | none => .error (.emptyAll text)

end EmptyAll

/-- The options of the query compiler. -/
structure Options where
  dialect : Dialect := .postgres
  emptyAll : EmptyAll := .vacuous
  /-- The longest chain of links followed to the server that holds a value. -/
  maxRelationDepth : Nat := 8
  /-- Whether equality filters next to each other in a disjunction become one
  list of values. -/
  mergeEqualities : Bool := true
  deriving BEq, DecidableEq, Repr

/-- Options of which each may be unset. -/
structure OptionsLayer where
  dialect : Option Dialect := none
  emptyAll : Option EmptyAll := none
  maxRelationDepth : Option Nat := none
  mergeEqualities : Option Bool := none
  deriving BEq, DecidableEq, Repr

namespace OptionsLayer

def merge (base upper : OptionsLayer) : OptionsLayer :=
  { dialect := upper.dialect.or base.dialect
    emptyAll := upper.emptyAll.or base.emptyAll
    maxRelationDepth := upper.maxRelationDepth.or base.maxRelationDepth
    mergeEqualities := upper.mergeEqualities.or base.mergeEqualities }

def resolve (layer : OptionsLayer) : Options :=
  let defaults : Options := {}
  { dialect := layer.dialect.getD defaults.dialect
    emptyAll := layer.emptyAll.getD defaults.emptyAll
    maxRelationDepth := layer.maxRelationDepth.getD defaults.maxRelationDepth
    mergeEqualities := layer.mergeEqualities.getD defaults.mergeEqualities }

/-- A natural number given by a document. -/
def natural? : Document → Option Nat
  | .integer (.ofNat value) => some value
  | _ => none

def boolean? : Document → Option Bool
  | .flag value => some value
  | _ => none

def ofDocument? (document : Document) : Option OptionsLayer := do
  let declared : List Document.Field :=
    [⟨"dialect", false⟩, ⟨"empty_all", false⟩, ⟨"max_relation_depth", false⟩,
      ⟨"merge_equalities", false⟩]
  match ← document.record? declared with
  | [dialect, emptyAll, depth, merge] =>
      return {
        dialect :=
          ← Document.optional? (Document.choice? Dialect.ofName?) dialect
        emptyAll :=
          ← Document.optional? (Document.choice? EmptyAll.ofName?) emptyAll
        maxRelationDepth := ← Document.optional? natural? depth
        mergeEqualities := ← Document.optional? boolean? merge }
  | _ => none

end OptionsLayer

end AttributeQuery
