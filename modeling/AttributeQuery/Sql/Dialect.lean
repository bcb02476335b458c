import AttributeQuery.Schema.Attribute
import AttributeQuery.Settings.Options
import AttributeQuery.Sql.Template
import AttributeQuery.Text.LikePattern

/-!
# What dialects write differently

Placeholders, casts, and the conditions on parts of texts. PostgreSQL casts
every parameter to the type of its column and uses patterns; SQLite has no
casts, no regular expressions and no network operators, and its functions on
texts need no escaping.
-/

namespace AttributeQuery

/-- What not every dialect can express. -/
inductive Feature where
  | regularExpressions
  | networkContainment
  deriving BEq, DecidableEq, Repr

def Feature.name : Feature → String
  | .regularExpressions => "regular expressions"
  | .networkContainment => "network containment"

namespace Dialect

def supports : Dialect → Feature → Bool
  | .postgres, _ => true
  | .sqlite, _ => false

/-- The placeholder of a parameter, the first one having number one. -/
def placeholder : Dialect → Nat → String
  | .postgres, number => "$" ++ Text.Numeral.ofNat number
  | .sqlite, _ => "?"

/-- The text that converts a parameter to the type of a column. -/
def cast : Dialect → ValueDomain → Option String
  | .postgres, .inet => some "::inet"
  | .postgres, .macaddr => some "::macaddr"
  | .postgres, .date => some "::date"
  | .postgres, .datetime => some "::timestamptz"
  | .postgres, .number => some "::numeric"
  | .postgres, .boolean => none
  | .postgres, .string => none
  | .sqlite, _ => none

def textCast : Dialect → String
  | .postgres => "::text"
  | .sqlite => ""

/-- The operator that matches a regular expression, where there is one. -/
def matchOperator : String := "~"

def like (pattern : String) : Template :=
  ⟨[.column, .sql " LIKE ", .param (.text pattern), .sql " ESCAPE '\\'"]⟩

def contains : Dialect → String → Template
  | .postgres, needle => like ("%" ++ Text.LikePattern.escape needle ++ "%")
  | .sqlite, needle =>
      ⟨[.sql "instr(", .column, .sql ", ", .param (.text needle), .sql ") > 0"]⟩

def startsWith : Dialect → String → Template
  | .postgres, start => like (Text.LikePattern.escape start ++ "%")
  | .sqlite, start =>
      ⟨[.sql "substr(", .column, .sql ", 1, length(", .param (.text start),
        .sql ")) = ", .param (.text start)]⟩

def containedBy : Dialect → String → Template
  | .postgres, haystack =>
      ⟨[.sql "strpos(", .param (.text haystack), .sql ", ", .column,
        .sql ") > 0"]⟩
  | .sqlite, haystack =>
      ⟨[.sql "instr(", .param (.text haystack), .sql ", ", .column,
        .sql ") > 0"]⟩

end Dialect

def Condition.render (condition : Condition) (dialect : Dialect) : String :=
  Condition.renderPieces dialect.placeholder 0 condition.pieces

end AttributeQuery
