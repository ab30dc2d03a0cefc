import PortableSql.Error
import PortableSql.Store.Token

namespace PortableSql.Store

/-- Why a statement is refused. -/
inductive Fault where
  | incomplete
  | near (text : String)
  | unrecognized (text : String)
  | unknownDatabase (text : String)
  | unqualifiedTemporary
  | reservedName (name : String)
  | tableExists (text : String)
  | nameOfIndex (name : String)
  | nameOfTable (name : String)
  | indexExists (name : String)
  | duplicateColumn (name : String)
  | expressionInKey
  | secondPrimaryKey (table : String)
  | referenceWidth
  | unknownReferenceColumn (column : String)
  | noTable (name : String)
  | noColumn (table column : String)
  | valueCount (values columns : Nat)
  | rowWidth (table : String) (columns values : Nat)
  | referenceMismatch (table target : String)
  | datatypeMismatch
  | notNull (table column : String)
  | unique (table : String) (columns : List String)
  | primaryKey (table : String) (columns : List String)
  | rowid (table : String)
  | foreignKey
  | restricted
  | full
  | noSavePoint (name : String)
  | nestedTransaction
  | nothingToCommit
  | nothingToRollBack
deriving DecidableEq, Repr

namespace Fault

def columnList (table : String) (columns : List String) : String :=
  commaSeparated (columns.map fun column => s!"{table}.{column}")

def message : Fault → String
  | incomplete => "incomplete input"
  | near text => s!"near \"{text}\": syntax error"
  | unrecognized text => s!"unrecognized token: \"{text}\""
  | unknownDatabase text => s!"unknown database {text}"
  | unqualifiedTemporary => "temporary table name must be unqualified"
  | reservedName name => s!"object name reserved for internal use: {name}"
  | tableExists text => s!"table {text} already exists"
  | nameOfIndex name => s!"there is already an index named {name}"
  | nameOfTable name => s!"there is already a table named {name}"
  | indexExists name => s!"index {name} already exists"
  | duplicateColumn name => s!"duplicate column name: {name}"
  | expressionInKey => "expressions prohibited in PRIMARY KEY and UNIQUE constraints"
  | secondPrimaryKey table => s!"table \"{table}\" has more than one primary key"
  | referenceWidth =>
    "number of columns in foreign key does not match the number of columns in the referenced table"
  | unknownReferenceColumn column => s!"unknown column \"{column}\" in foreign key definition"
  | noTable name => s!"no such table: {name}"
  | noColumn table column => s!"table {table} has no column named {column}"
  | valueCount values columns => s!"{values} values for {columns} columns"
  | rowWidth table columns values =>
    s!"table {table} has {columns} columns but {values} values were supplied"
  | referenceMismatch table target =>
    s!"foreign key mismatch - \"{table}\" referencing \"{target}\""
  | datatypeMismatch => "datatype mismatch"
  | notNull table column => s!"NOT NULL constraint failed: {table}.{column}"
  | unique table columns | primaryKey table columns =>
    s!"UNIQUE constraint failed: {columnList table columns}"
  | rowid table => s!"UNIQUE constraint failed: {table}.rowid"
  | foreignKey | restricted => "FOREIGN KEY constraint failed"
  | full => "database or disk is full"
  | noSavePoint name => s!"no such savepoint: {name}"
  | nestedTransaction => "cannot start a transaction within a transaction"
  | nothingToCommit => "cannot commit - no transaction is active"
  | nothingToRollBack => "cannot rollback - no transaction is active"

/-- The number of the fault: that of a broken constraint names the constraint. -/
def code : Fault → Nat
  | full => 13
  | datatypeMismatch => 20
  | foreignKey => 787
  | notNull .. => 1299
  | primaryKey .. => 1555
  | restricted => 1811
  | unique .. => 2067
  | rowid _ => 2579
  | _ => 1

def toError (f : Fault) : Error := (DriverFault.database f.message (some (toString f.code))).toError

end Fault

/-- What is wrong where the tokens go on in a way that no statement does. -/
def Fault.at : List Token → Fault
  | [] => incomplete
  | t :: _ =>
    match t.kind with
    | .unknown => unrecognized (String.ofList t.text)
    | _ => near (String.ofList t.text)

end PortableSql.Store
