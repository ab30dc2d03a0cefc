import PortableSql.Catalog.Listing
import PortableSql.Catalog.Query
import PortableSql.Connection.Basic
import PortableSql.Dialect.Definition

namespace PortableSql

/-- The name in the first column of a row, unless that is null. -/
def Row.firstName? (row : Row) : Option String :=
  match row.head? with
  | none => none
  | some (_, .null) => none
  | some (_, .str s) => some s
  | some (_, value) => some value.render

/-- A table name in parts: the schema before the first dot, or else the given one, and the rest. -/
def qualifiedName (schema : Option String) (name : String) : Option String × String :=
  match Chars.cutFirst '.' name.toList with
  | some (before, after) => (some (String.ofList before), String.ofList after)
  | none => (schema, name)

namespace Action

variable {δ : Type} [Driver δ]

def runCatalogQuery (q : CatalogQuery) : Action δ (List Row) := query q.sql q.params

/-- The names of the tables of the configured schema, in the order of the result. -/
def listTables : Action δ (List String) := do
  let c ← get
  let rows ← runCatalogQuery (c.dialect.tablesQuery c.config.schema)
  return rows.filterMap Row.firstName?

/-- Asks the catalog about a table. -/
def fetch (table : String) (q : CatalogQuery) : Action δ (List Row) := do
  match ← attempt (runCatalogQuery q) with
  | .ok rows => return rows
  | .error e =>
    throw (.introspection s!"cannot describe {table}: {e.text}" table (some e))

/-- Goes on with a table into which rows were folded. -/
def folded (f : Folding) : Action δ Table := do
  f.events.forM emit
  match f.error? with
  | some e => throw e
  | none => return f.table

/-- Reads the definition of a table out of the catalog. -/
def describe (name : String) : Action δ Table := do
  let c ← get
  let d := c.dialect
  let (schema, table) := qualifiedName c.config.schema name
  let columns ← fetch table (d.columnsQuery table schema)
  if columns.isEmpty then
    throw (.introspection s!"cannot describe {table}. It has 0 columns." table none)
  let t ← folded (d.foldColumns { name := table } columns)
  let indexes ← fetch table (d.indexesQuery table schema)
  let t ← folded (Folding.ofRows d.foldIndex t indexes)
  let keys ← fetch table (d.foreignKeysQuery table schema)
  let t ← folded (Folding.ofRows d.foldForeignKey t keys)
  emit (.describedTable table t.columns.length t.indexes.length t.constraints.length)
  return t

/-- Runs the statements that create a table, in order. -/
def createTable (t : Table) : Action δ Unit := do
  let d ← dialect
  (d.createTable t).forM fun sql => discard (execute sql [])
  emit (.createdTable (← connectionId) t.name)

def dropTable (t : Table) : Action δ Unit := do
  discard (execute ((← dialect).dropTable t) [])

def truncateTable (t : Table) : Action δ Unit := do
  discard (execute ((← dialect).truncateTable t) [])

end Action

end PortableSql
