import AttributeQuery.Text.Numeral
import AttributeQuery.Text.Quoted

/-!
# Conditions

A condition is a sequence of SQL text and bound values. Values get their
placeholders only when the whole statement is rendered, so conditions can be
nested and concatenated freely. Text added to a condition merges with text at
its end, and empty text is left out; appending a condition keeps the pieces of
both.
-/

namespace AttributeQuery

/-- A value bound to a parameter of a statement. -/
inductive SqlValue where
  | text (value : String)
  | integer (value : Int64)
  deriving DecidableEq

def SqlValue.inline : SqlValue → String
  | .text value => Text.Quoted.encode value
  | .integer value => Text.Numeral.ofInt value.toInt

inductive Piece where
  | sql (text : String)
  | param (value : SqlValue)
  deriving DecidableEq

/-- SQL text with bound values. -/
structure Condition where
  pieces : List Piece := []
  deriving DecidableEq

namespace Condition

def empty : Condition := {}

def isEmpty (condition : Condition) : Bool :=
  condition.pieces.isEmpty

/-- Add text at the end of pieces, merging it with text that stands there. -/
def addText (text : String) : List Piece → List Piece
  | [] => [.sql text]
  | [.sql last] => [.sql (last ++ text)]
  | piece :: rest => piece :: addText text rest

def sql (condition : Condition) (text : String) : Condition :=
  if text = "" then condition else ⟨addText text condition.pieces⟩

def param (condition : Condition) (value : SqlValue) : Condition :=
  ⟨condition.pieces ++ [.param value]⟩

/-- The condition of a text without values. -/
def raw (text : String) : Condition := empty.sql text

def append (first second : Condition) : Condition :=
  ⟨first.pieces ++ second.pieces⟩

instance : Append Condition := ⟨append⟩

def negate (inner : Condition) : Condition :=
  (raw "NOT (" ++ inner).sql ")"

/-- Put conditions after a first one, with a separator between them. -/
def appendAll (separator : String) (start : Condition) :
    List Condition → Condition
  | [] => start
  | first :: rest =>
      rest.foldl (fun joined next => joined.sql separator ++ next)
        (start ++ first)

/-- Conditions with an operator between them, in parentheses. -/
def join (operator : String) (conditions : List Condition) : Condition :=
  (appendAll (" " ++ operator ++ " ") (raw "(") conditions).sql ")"

/-- Conditions that all have to hold, without parentheses. -/
def conjunction (conditions : List Condition) : Condition :=
  appendAll " AND " empty conditions

def cast (condition : Condition) : Option String → Condition
  | some text => condition.sql text
  | none => condition

/-- Values with commas between them, a cast after each. -/
def paramList (castText : Option String) : List SqlValue → Condition
  | [] => empty
  | first :: rest =>
      rest.foldl
        (fun list value => ((list.sql ", ").param value).cast castText)
        ((empty.param first).cast castText)

/-- The values of a condition, in the order of their placeholders. -/
def params (condition : Condition) : List SqlValue :=
  condition.pieces.filterMap fun
    | .param value => some value
    | .sql _ => none

/-- The text of pieces with placeholders numbered from the one after `count`. -/
def renderPieces (placeholder : Nat → String) : Nat → List Piece → String
  | _, [] => ""
  | count, .sql text :: rest => text ++ renderPieces placeholder count rest
  | count, .param _ :: rest =>
      placeholder (count + 1) ++ renderPieces placeholder (count + 1) rest

def inlinePieces : List Piece → String
  | [] => ""
  | .sql text :: rest => text ++ inlinePieces rest
  | .param value :: rest => value.inline ++ inlinePieces rest

/-- The text of a condition with its values inlined. It is meant for reading,
not for a database. -/
def inline (condition : Condition) : String :=
  inlinePieces condition.pieces

end Condition

end AttributeQuery
