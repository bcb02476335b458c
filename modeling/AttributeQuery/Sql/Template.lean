import AttributeQuery.Sql.Condition

/-!
# Templates

A template is a condition with holes for the column it is about. Its pieces stay
as they are given; they merge only when a column is filled in.
-/

namespace AttributeQuery

inductive TemplatePiece where
  | sql (text : String)
  | param (value : SqlValue)
  | column
  deriving DecidableEq

/-- A condition with holes for a column. -/
structure Template where
  pieces : List TemplatePiece := []
  deriving DecidableEq

namespace Template

def empty : Template := {}

def isEmpty (template : Template) : Bool :=
  template.pieces.isEmpty

/-- The text of a cast as pieces: none when there is no cast. -/
def castPieces : Option String → List TemplatePiece
  | some text => [.sql text]
  | none => []

def ofPiece : Piece → TemplatePiece
  | .sql text => .sql text
  | .param value => .param value

def conditionPieces (condition : Condition) : List TemplatePiece :=
  condition.pieces.map ofPiece

/-- Add a piece of a template to a condition, filling in the column. -/
def applyPiece (columnName : String) (applied : Condition) :
    TemplatePiece → Condition
  | .sql text => applied.sql text
  | .param value => applied.param value
  | .column => applied.sql columnName

def apply (template : Template) (columnName : String) : Condition :=
  template.pieces.foldl (applyPiece columnName) Condition.empty

end Template

end AttributeQuery
