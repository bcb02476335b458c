import AttributeQuery.Query.Context
import AttributeQuery.Query.Encoding

/-!
# Predicates

A predicate is what a leaf says about a value: a template for the operator and
the operand. Where the value is found, and so which column fills the template,
is a matter of the location it is applied to.
-/

namespace AttributeQuery

/-- The column of a location that a predicate is about. -/
inductive Subject where
  | value
  /-- The network of a server instead of its id. -/
  | network
  deriving BEq, DecidableEq, Repr

/-- A statement about the values of an attribute. -/
structure Predicate where
  template : Template
  subject : Subject := .value
  /-- Whether the located statement as a whole is negated. -/
  isNegated : Bool := false
  deriving DecidableEq

def Comparison.symbol : Comparison → String
  | .greaterThan => ">"
  | .lessThan => "<"
  | .greaterThanOrEquals => ">="
  | .lessThanOrEquals => "<="

namespace Predicate

def unsupported (attr : Attribute) (operator : Operator) : CompileError :=
  .unsupportedOperator attr.id operator attr.type

/-- The predicate of a boolean attribute. Booleans of a side table are true
where a row exists, so only a column of the server table is tested. -/
def ofBoolean (attr : Attribute) : Leaf → Except CompileError Predicate
  | .equals (.boolean value) =>
      .ok {
        template := ⟨if attr.isSpecial then [.column] else []⟩
        isNegated := !value }
  | .equals literal =>
      .error (.typeMismatch attr.id (.valueOf .boolean) literal.type)
  | leaf => .error (unsupported attr leaf.operator)

/-- The value that a literal is bound as, and its cast. Links are compared by
server id. -/
def operand (context : Context) (attr : Attribute) (literal : Literal) :
    Except CompileError (SqlValue × Option String) :=
  match attr.type, literal with
  | .scalar domain, literal => do
      return (← encodeValue attr.id domain literal, context.dialect.cast domain)
  | _, .string hostname => do
      requireInlinable hostname
      match context.hostnames.get? hostname with
      | some id => return (.integer id, none)
      | none => .error (.unknownHostname hostname)
  | _, literal => .error (.typeMismatch attr.id .hostname literal.type)

def comparedBy (symbol : String) (value : SqlValue) (cast : Option String) :
    Predicate :=
  { template :=
      ⟨[.column, .sql (" " ++ symbol ++ " "), .param value]
        ++ Template.castPieces cast⟩ }

def ofEquality (context : Context) (attr : Attribute) (literal : Literal) :
    Except CompileError Predicate := do
  let (value, cast) ← operand context attr literal
  return comparedBy "=" value cast

/-- The predicate that a value compares to a literal. Links have no order. -/
def ofComparison (context : Context) (attr : Attribute) (relation : Comparison)
    (literal : Literal) : Except CompileError Predicate :=
  if attr.isLink then .error (.unorderableType attr.id)
  else do
    let (value, cast) ← operand context attr literal
    return comparedBy relation.symbol value cast

/-- The predicate that a value matches a regular expression. Links hold server
ids, so the expression is matched with the hostnames of the servers. -/
def ofPattern (context : Context) (attr : Attribute) (pattern : String) :
    Except CompileError Predicate := do
  requireInlinable pattern
  let symbol ← context.dialect.requireMatchOperator
  if attr.isLink then
    let before := " IN (SELECT " ++ context.named .serverIdColumn ++ " FROM "
      ++ context.named .serverTable ++ " WHERE "
      ++ context.named .hostnameColumn ++ " " ++ symbol ++ " "
    return {
      template := ⟨[.column, .sql before, .param (.text pattern), .sql ")"]⟩ }
  else
    let before := context.dialect.textCast ++ " " ++ symbol ++ " "
    return { template := ⟨[.column, .sql before, .param (.text pattern)]⟩ }

/-- The template that a network column is contained in a network in some way. -/
def networkTemplate (context : Context) (attr : Attribute)
    (relation : Containment) (literal : Literal) :
    Except CompileError Template := do
  context.dialect.require .networkContainment
  let value ← encodeValue attr.id .inet literal
  let network : List TemplatePiece :=
    .param value :: Template.castPieces (context.dialect.cast .inet)
  let column := context.named .networkColumn
  match relation with
  | .startsWith =>
      return ⟨[.column, .sql " >>= "] ++ network
        ++ [.sql " AND host(", .column, .sql ") = host("] ++ network
        ++ [.sql ")"]⟩
  | .contains => return ⟨[.column, .sql " >>= "] ++ network⟩
  | .containedBy => return ⟨[.column, .sql " <<= "] ++ network⟩
  | .containedOnlyBy =>
      return ⟨[.column, .sql " << "] ++ network
        ++ [.sql (" AND NOT EXISTS (SELECT 1 FROM "
              ++ context.named .serverTable ++ " AS supernet WHERE "),
            .column,
            .sql (" << supernet." ++ column ++ " AND supernet." ++ column
              ++ " << ")]
        ++ network ++ [.sql ")"]⟩
  | .overlaps => return ⟨[.column, .sql " && "] ++ network⟩

/-- The template that a text column contains a text in some way, where the
dialects have one. -/
def textTemplate? (dialect : Dialect) (relation : Containment) (text : String) :
    Option Template :=
  match relation with
  | .startsWith => some (dialect.startsWith text)
  | .contains => some (dialect.contains text)
  | .containedBy => some (dialect.containedBy text)
  | .containedOnlyBy => none
  | .overlaps => none

def ofContainment (context : Context) (attr : Attribute)
    (relation : Containment) (literal : Literal) :
    Except CompileError Predicate :=
  match attr.type, literal with
  | .scalar .inet, literal => do
      return { template := ← networkTemplate context attr relation literal }
  | .supernet _, literal => do
      return {
        template := ← networkTemplate context attr relation literal
        subject := .network }
  | .scalar .string, .string text => do
      requireInlinable text
      match textTemplate? context.dialect relation text with
      | some template => return { template }
      | none => .error (unsupported attr (.containment relation))
  | .scalar .string, literal =>
      .error (.typeMismatch attr.id (.valueOf .string) literal.type)
  | _, _ => .error (unsupported attr (.containment relation))

def ofLeaf (context : Context) (attr : Attribute) (leaf : Leaf) :
    Except CompileError Predicate :=
  if attr.isBoolean then ofBoolean attr leaf
  else match leaf with
    | .equals literal => ofEquality context attr literal
    | .comparison relation literal => ofComparison context attr relation literal
    | .regexp pattern => ofPattern context attr pattern
    | .empty =>
        .ok { template := ⟨[.column, .sql " IS NOT NULL"]⟩, isNegated := true }
    | .containment relation literal =>
        ofContainment context attr relation literal

/-- The predicate of a leaf. A filter made of others has none. -/
def ofFilter (context : Context) (attr : Attribute) :
    Filter → Except CompileError Predicate
  | .leaf leaf => ofLeaf context attr leaf
  | filter => .error (unsupported attr filter.operator)

/-- The values that literals are bound as, and the cast of the last one. -/
def operands (context : Context) (attr : Attribute) (cast : Option String) :
    List Literal → Except CompileError (List SqlValue × Option String)
  | [] => .ok ([], cast)
  | literal :: rest => do
      let (value, cast) ← operand context attr literal
      let (values, cast) ← operands context attr cast rest
      return (value :: values, cast)

def ofMembership (context : Context) (attr : Attribute)
    (literals : List Literal) : Except CompileError Predicate := do
  let (values, cast) ← operands context attr none literals
  return {
    template := ⟨[.column, .sql " IN ("]
      ++ Template.conditionPieces (Condition.paramList cast values)
      ++ [.sql ")"]⟩ }

end Predicate

end AttributeQuery
