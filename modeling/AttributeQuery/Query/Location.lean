import AttributeQuery.Query.Predicate

/-!
# Locations

Where the values of an attribute are found, seen from the row of an outer
server. Special attributes are columns of that row; links in reverse and
supernets are rows found by a correlated query; everything else is a row of a
side table, owned by the server that holds the attribute for the outer one. That
holder is the outer server itself or one reached through link attributes,
depending on the servertype.
-/

namespace AttributeQuery

/-- Where the values of an attribute are found. -/
inductive Location where
  /-- A column of the outer server row. -/
  | column (name : String)
  /-- A row of a table, called `sub`, that meets some conditions. The network
  column is there when the row is a server. -/
  | existence (table : String) (conditions : List Condition)
      (valueColumn : String) (networkColumn : Option String)
  deriving DecidableEq

namespace Location

/-- That a table has a row that meets some conditions. -/
def existsRow (table rowName : String) (conditions : List Condition) :
    Condition :=
  (Condition.raw
      ("EXISTS (SELECT 1 FROM " ++ table ++ " AS " ++ rowName ++ " WHERE ")
    ++ Condition.conjunction conditions).sql ")"

def subjectColumn (valueColumn : String) (networkColumn : Option String) :
    Subject → String
  | .value => valueColumn
  | .network => networkColumn.getD valueColumn

/-- That a predicate holds at a location, its negation left aside. -/
def located (location : Location) (predicate : Predicate) : Condition :=
  match location with
  | .column name => predicate.template.apply name
  | .existence table conditions valueColumn networkColumn =>
      let column := subjectColumn valueColumn networkColumn predicate.subject
      let stated :=
        if predicate.template.isEmpty then []
        else [predicate.template.apply column]
      existsRow table "sub" (conditions ++ stated)

def apply (location : Location) (predicate : Predicate) : Condition :=
  if predicate.isNegated then (location.located predicate).negate
  else location.located predicate

def serverColumn (column : String) : String :=
  "server." ++ column

def columnIs (column text : String) : Condition :=
  (Condition.raw (column ++ " = ")).param (.text text)

def columnsEqual (column other : String) : Condition :=
  Condition.raw (column ++ " = " ++ other)

/-- That the network of the row of a given name contains that of the outer
server. -/
def containsServer (context : Context) (rowName : String) : Condition :=
  let column := context.named .networkColumn
  Condition.raw (rowName ++ "." ++ column ++ " >>= server." ++ column)

/-- That the outer server is of one of some servertypes. -/
def servertypeGuard (context : Context) (servertypes : List ServertypeId) :
    Condition :=
  (Condition.raw ("server." ++ context.named .servertypeColumn ++ " IN (")
    ++ Condition.paramList none (servertypes.map .text)).sql ")"

/-- A way to reach the holder of an attribute from the outer server, for some
of its servertypes. -/
structure Strategy where
  servertypes : List ServertypeId
  condition : Condition
  deriving DecidableEq

/-- States that a server, given by a column with its id, is reached through a
link attribute from the outer server, which is of one of some servertypes. -/
abbrev Relation :=
  AttributeId → String → List ServertypeId → Except CompileError Condition

def bindingsOf (context : Context) (id : AttributeId)
    (servertypes : List ServertypeId) : List Binding :=
  (context.schema.bindings id).filter fun binding =>
    servertypes.contains binding.servertype

/-- The servertypes of the bindings that go through a link, or directly. -/
def boundVia (bindings : List Binding) (via : Option AttributeId) :
    List ServertypeId :=
  (bindings.filter (·.relatedVia = via)).map (·.servertype)

/-- The links that bindings go through, distinct and in ascending order. -/
def links (bindings : List Binding) : List AttributeId :=
  Sorted.distinct (bindings.filterMap (·.relatedVia))

/-- The strategy of the servertypes that hold an attribute themselves, if there
are any. -/
def directStrategy (context : Context) (holder : String)
    (bindings : List Binding) : List Strategy :=
  match boundVia bindings none with
  | [] => []
  | direct =>
      [⟨direct,
        columnsEqual (serverColumn (context.named .serverIdColumn)) holder⟩]

/-- The strategy of the servertypes that reach an attribute through a link. -/
def linkStrategy (relation : Relation) (holder : String)
    (bindings : List Binding) (via : AttributeId) :
    Except CompileError Strategy := do
  let servertypes := boundVia bindings (some via)
  return ⟨servertypes, ← relation via holder servertypes⟩

/-- Whether strategies need to say for which servertypes they are: when there
are several, or when one through a link is not for all of them. -/
def needsGuard (servertypes : List ServertypeId) (bindings : List Binding)
    (strategies : List Strategy) : Bool :=
  1 < strategies.length
    || (links bindings).any fun via =>
        (boundVia bindings (some via)).length < servertypes.length

def guarded (context : Context) (strategy : Strategy) : Condition :=
  Condition.join "AND"
    [servertypeGuard context strategy.servertypes, strategy.condition]

def anyGuarded (context : Context) : List Strategy → Condition
  | [strategy] => guarded context strategy
  | strategies => Condition.join "OR" (strategies.map (guarded context))

/-- States that a server, given by a column with its id, holds an attribute for
the outer server, which is of one of some servertypes. -/
def holderBy (context : Context) (relation : Relation) : Relation :=
  fun id holder servertypes =>
    match bindingsOf context id servertypes with
    | [] => .error (.unreachableAttribute id)
    | bindings => do
        let related ← (links bindings).mapM
          (linkStrategy relation holder bindings)
        let strategies := directStrategy context holder bindings ++ related
        match strategies, needsGuard servertypes bindings strategies with
        | [strategy], false => return strategy.condition
        | strategies, _ => return anyGuarded context strategies

/-- The name of the row of a link, by the number of links before it. -/
def linkName (depth : Nat) : String :=
  "rel" ++ Text.Numeral.ofNat (depth + 1)

/-- States that a server is reached through a link attribute; `holder` states
which server holds that link. -/
def linkedBy (context : Context) (depth : Nat) (holder : Relation) : Relation :=
  fun via reached servertypes => do
    let rowName := linkName depth
    let attr ← (context.schema.requireAttribute via).mapError .schema
    match attr.type with
    | .hostname _ => do
        let owner ← holder via (rowName ++ ".server_id") servertypes
        return existsRow (context.named .relationTable) rowName
          [columnIs (rowName ++ ".attribute_id") via, owner,
            columnsEqual (rowName ++ ".value") reached]
    | .supernet target => do
        context.dialect.require .networkContainment
        return existsRow (context.named .serverTable) rowName
          [columnIs (rowName ++ "." ++ context.named .servertypeColumn) target,
            containsServer context rowName,
            columnsEqual (rowName ++ "." ++ context.named .serverIdColumn)
              reached]
    | .reverseHostname reversed =>
        return existsRow (context.named .relationTable) rowName
          [columnIs (rowName ++ ".attribute_id") reversed,
            columnsEqual (rowName ++ ".value")
              (serverColumn (context.named .serverIdColumn)),
            columnsEqual (rowName ++ ".server_id") reached]
    | .scalar _ => .error (.unreachableAttribute via)

/-- States that a server holds an attribute for the outer server, through at
most `remaining` further links after `depth` links followed so far. -/
def holderWithin (context : Context) : (remaining depth : Nat) → Relation
  | 0, _ =>
      holderBy context fun via _ _ =>
        .error (.relationDepthExceeded via context.options.maxRelationDepth)
  | remaining + 1, depth =>
      holderBy context
        (linkedBy context depth (holderWithin context remaining (depth + 1)))

/-- The location of an attribute whose values are rows of a table that the
holder of the attribute owns. -/
def stored (context : Context) (attr : Attribute) (table : String) :
    Except CompileError Location := do
  let owner ← holderWithin context context.options.maxRelationDepth 0 attr.id
    "sub.server_id" context.servertypes
  return .existence table
    [owner, columnIs "sub.attribute_id" attr.id] "sub.value" none

def ofType (context : Context) (attr : Attribute) :
    Except CompileError Location :=
  match attr.type with
  | .supernet target => do
      context.dialect.require .networkContainment
      return .existence (context.named .serverTable)
        [columnIs ("sub." ++ context.named .servertypeColumn) target,
          containsServer context "sub"]
        ("sub." ++ context.named .serverIdColumn)
        (some ("sub." ++ context.named .networkColumn))
  | .reverseHostname reversed =>
      return .existence (context.named .relationTable)
        [columnIs "sub.attribute_id" reversed,
          columnsEqual "sub.value"
            (serverColumn (context.named .serverIdColumn))]
        "sub.server_id" none
  | .hostname _ => stored context attr (context.named .relationTable)
  | .scalar domain => stored context attr (context.sideTable domain)

/-- The location of an attribute for the servertypes of a context. -/
def resolve (context : Context) (attr : Attribute) :
    Except CompileError Location :=
  match attr.special with
  | some special => .ok (.column (serverColumn special.column))
  | none => ofType context attr

end Location

end AttributeQuery
