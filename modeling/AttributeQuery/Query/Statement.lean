import AttributeQuery.Query.Compilation

/-!
# Statements

The statement that lists the servers of the requested servertypes for which all
filters of a query hold, in a fixed order. Without requested servertypes there
is nothing to ask.
-/

namespace AttributeQuery

/-- A window on the rows of a statement. -/
structure Page where
  limit : Nat
  offset : Nat
  deriving BEq, DecidableEq, Repr

/-- A statement with its bound values, for one dialect. -/
structure Statement where
  dialect : Dialect
  body : Condition
  deriving DecidableEq

namespace Statement

def sql (statement : Statement) : String :=
  statement.body.render statement.dialect

def params (statement : Statement) : List SqlValue :=
  statement.body.params

/-- The text of a statement with its values inlined. -/
def inlineSql (statement : Statement) : String :=
  statement.body.inline

/-- The greatest bound of a window that the databases take. -/
def greatestBound : Nat := 0x7fffffffffffffff

/-- Restrict a statement to a window; greater bounds than the databases take
are lowered. -/
def paginate (statement : Statement) (page : Page) : Statement :=
  let bound (value : Nat) : String :=
    Text.Numeral.ofNat (min value greatestBound)
  { statement with
    body := statement.body.sql
      (" LIMIT " ++ bound page.limit ++ " OFFSET " ++ bound page.offset) }

end Statement

/-- A compiler for queries on the servers of one schema. -/
structure Compiler where
  schema : Schema
  settings : Settings

namespace Compiler

/-- The first of some servertypes that is not declared. -/
def undeclared? (compiler : Compiler) (servertypes : List ServertypeId) :
    Option ServertypeId :=
  servertypes.find? (!compiler.schema.hasServertype ·)

/-- The requested servertypes, distinct and in ascending order. All of them have
to be declared. -/
def candidates (compiler : Compiler) (servertypes : List ServertypeId) :
    Except CompileError (List ServertypeId) :=
  let distinct := Sorted.distinct servertypes
  match compiler.undeclared? distinct with
  | some id => .error (.schema (.unknownServertype id))
  | none => .ok distinct

def context (compiler : Compiler) (servertypes : List ServertypeId)
    (hostnames : HostnameIds) : Context :=
  { schema := compiler.schema
    options := compiler.settings.options
    layout := compiler.settings.layout
    servertypes
    hostnames }

def conditionIn (context : Context) (id : AttributeId) (filter : Filter) :
    Except CompileError Condition := do
  let attr ← (context.schema.requireAttribute id).mapError .schema
  let location ← Location.resolve context attr
  filter.compile context attr location

/-- The condition of a filter on an attribute, for servers of some types. -/
def compileCondition (compiler : Compiler) (servertypes : List ServertypeId)
    (id : AttributeId) (filter : Filter) (hostnames : HostnameIds) :
    Except CompileError Condition := do
  let candidates ← compiler.candidates servertypes
  conditionIn (compiler.context candidates hostnames) id filter

/-- The statement up to the filters: the columns of the servers of some
servertypes. -/
def selection (context : Context) : Condition :=
  let column (field : LayoutField) : String := "server." ++ context.named field
  (Condition.raw
      ("SELECT " ++ column .serverIdColumn ++ ", "
        ++ column .hostnameColumn ++ ", " ++ column .networkColumn ++ ", "
        ++ column .servertypeColumn ++ ", " ++ column .projectColumn
        ++ " FROM " ++ context.named .serverTable ++ " AS server WHERE "
        ++ column .servertypeColumn ++ " IN (")
    ++ Condition.paramList none (context.servertypes.map .text)).sql ")"

def restrict (context : Context) (statement : Condition) :
    Query → Except CompileError Condition
  | [] => .ok statement
  | (id, filter) :: rest => do
      let condition ← conditionIn context id filter
      restrict context (statement.sql " AND " ++ condition) rest

def order (context : Context) : String :=
  " ORDER BY server." ++ context.named .hostnameColumn ++ ", server."
    ++ context.named .networkColumn ++ ", server."
    ++ context.named .serverIdColumn

/-- The statement of a query, unless no servertype is requested. -/
def assemble (compiler : Compiler) (servertypes : List ServertypeId)
    (query : Query) (hostnames : HostnameIds) :
    Except CompileError (Option Statement) := do
  let candidates ← compiler.candidates servertypes
  if candidates.isEmpty then return none
  let context := compiler.context candidates hostnames
  let body ← restrict context (selection context) query
  return some ⟨context.dialect, body.sql (order context)⟩

/-- Look up the hostnames of a query in a directory, then assemble it. -/
def prepare (compiler : Compiler) (directory : HostnameIds)
    (servertypes : List ServertypeId) (query : Query) :
    Except CompileError (Option Statement) := do
  if servertypes.isEmpty then return none
  let hostnames ← (query.hostnames compiler.schema).mapError .schema
  compiler.assemble servertypes query (directory.lookup hostnames)

end Compiler

end AttributeQuery
