import PortableSql.Dialect
import PortableSql.Error
import PortableSql.Param

namespace PortableSql

inductive EventLevel where
  | trace
  | debug
  | info
  | warn
  | error
deriving DecidableEq, Repr

def EventLevel.name : EventLevel → String
  | trace => "TRACE"
  | debug => "DEBUG"
  | info => "INFO"
  | warn => "WARN"
  | error => "ERROR"

/-- What is reported to the log while the library works. -/
inductive Event where
  | skippedIndexColumn (index column : String)
  | skippedConstraintColumn (constraint column : String)
  | skippedForeignKeyColumn (constraint column : String)
  /-- A statement about to be sent; where `shown` it is reported with its parameters. -/
  | statement (connection sql : String) (params : List Param) (shown : Bool)
  | savePointsUnsupported (connection : String)
  | begun (connection : String)
  | nestedBegun (connection : String) (level : Nat)
  | committed (connection : String)
  | nestedCommitted (connection : String) (level : Nat)
  | rolledBack (connection : String)
  | rolledBackToSavePoint (connection : String) (level : Nat)
  | blockRollbackFailed (connection : String) (error : Error)
  | closedInTransaction (connection : String) (level : Nat)
  | closingRollbackFailed (connection : String) (error : Error)
  | createdTable (connection table : String)
  | describedTable (table : String) (columns indexes constraints : Nat)
  | connected (product : Dialect)
  | disconnected (product : Dialect)

namespace Event

def level : Event → EventLevel
  | statement _ _ _ shown => if shown then .debug else .trace
  | blockRollbackFailed .. | closedInTransaction .. | closingRollbackFailed .. => .warn
  | connected .. | disconnected .. => .info
  | _ => .debug

def message : Event → String
  | skippedIndexColumn .. => "Skipping index column not on table"
  | skippedConstraintColumn .. => "Skipping constraint column not on table"
  | skippedForeignKeyColumn .. => "Skipping foreign key column not on table"
  | statement .. => "Executing statement"
  | savePointsUnsupported .. => "Driver does not support savepoints"
  | begun .. => "Transaction started"
  | nestedBegun .. => "Nested transaction started"
  | committed .. => "Transaction committed"
  | nestedCommitted .. => "Nested transaction committed"
  | rolledBack .. => "Transaction rolled back"
  | rolledBackToSavePoint .. => "Rolled back to savepoint"
  | blockRollbackFailed .. => "Rollback after failed transactional block failed"
  | closedInTransaction .. => "Connection closed with an open transaction, rolling back"
  | closingRollbackFailed .. => "Rollback failed"
  | createdTable .. => "Created table"
  | describedTable .. => "Described table"
  | connected .. => "Connected"
  | disconnected .. => "Disconnected"

def fields : Event → List (String × Json)
  | skippedIndexColumn index column => [("index", .str index), ("column", .str column)]
  | skippedConstraintColumn constraint column | skippedForeignKeyColumn constraint column =>
    [("constraint", .str constraint), ("column", .str column)]
  | statement connection sql params shown =>
    [("connection_id", .str connection), ("sql", .str sql),
     ("params", if shown then .str (Param.describeAll params) else .int params.length)]
  | savePointsUnsupported connection | begun connection | committed connection
  | rolledBack connection => [("connection_id", .str connection)]
  | nestedBegun connection level | nestedCommitted connection level
  | rolledBackToSavePoint connection level | closedInTransaction connection level =>
    [("connection_id", .str connection), ("level", .int level)]
  | blockRollbackFailed connection error | closingRollbackFailed connection error =>
    [("connection_id", .str connection), ("error", .str error.text)]
  | createdTable connection table => [("connection_id", .str connection), ("table", .str table)]
  | describedTable table columns indexes constraints =>
    [("table", .str table), ("columns", .int columns), ("indexes", .int indexes),
     ("constraints", .int constraints)]
  | connected product | disconnected product => [("db_type", .str product.title)]

end Event

end PortableSql
