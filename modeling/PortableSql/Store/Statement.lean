import PortableSql.Store.Token
import PortableSql.Store.Fault
import PortableSql.Table.Kinds

namespace PortableSql.Store

/-- A name, in a schema if it is qualified. -/
structure ObjectName where
  schema? : Option Token
  base : Token

/-- The name as messages show it. -/
def ObjectName.shown (n : ObjectName) : String :=
  match n.schema? with
  | some schema => s!"{schema.name}.{n.base.name}"
  | none => n.base.name

/-- A value in a statement: written out, or the next parameter. -/
inductive Term where
  | mark
  | constant (v : Value)
deriving Inhabited

/-- The default of a column, as written and as a value. -/
structure DefaultClause where
  text : String
  value : Value

structure StoredColumn where
  name : String
  type : String
  notNull : Bool := false
  default : Option DefaultClause := none

/-- What stands between the parentheses of a table. -/
inductive TableItem where
  | column (c : StoredColumn)
  | primary (columns : List String)
  | unique (columns : List String)
  | foreign (columns : List String) (target : String) (targetColumns : List String)
      (onUpdate onDelete : ReferentialAction)

/-- The text of a new table as far as it makes sense, and what is wrong with what follows. -/
structure TableText where
  temporary : Bool
  name : ObjectName
  items : List TableItem
  fault? : Option Fault

inductive Statement where
  | begin
  | commit
  | rollback
  | savePoint (name : String)
  | release (name : String)
  | rollbackTo (name : String)
  | enforce (foreignKeys : Bool)
  | createTable (text : TableText)
  | createIndex (isUnique : Bool) (name : ObjectName) (table : Token) (columns : List String)
  | dropTable (name : ObjectName)
  | insert (name : ObjectName) (columns? : Option (List String)) (terms : List Term)
  | delete (name : ObjectName)
  /-- All rows of a table in the order of their numbers. -/
  | rows (name : ObjectName)
  /-- One row of values, each with its name. -/
  | values (items : List (Term × String))
  /-- The names of the tables of a schema. -/
  | tables (schema : Token)

end PortableSql.Store
