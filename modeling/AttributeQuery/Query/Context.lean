import AttributeQuery.Query.Hostnames
import AttributeQuery.Settings.Basic

/-!
# Compilation contexts

What the compilation of a filter reads: the schema, the settings, the requested
servertypes and the ids of the hostnames in the query.
-/

namespace AttributeQuery

/-- What the compilation of a filter reads. -/
structure Context where
  schema : Schema
  options : Options
  layout : Layout
  /-- The requested servertypes, distinct and in ascending order. -/
  servertypes : List ServertypeId
  hostnames : HostnameIds

namespace Context

def dialect (context : Context) : Dialect :=
  context.options.dialect

def named (context : Context) (field : LayoutField) : String :=
  context.layout.name field

def sideTable (context : Context) (domain : ValueDomain) : String :=
  context.named (.sideTable domain)

end Context

end AttributeQuery
