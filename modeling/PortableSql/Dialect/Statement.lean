import PortableSql.Dialect

namespace PortableSql.Dialect

def supportsQuoting (_ : Dialect) : Bool := true

def supportsSavePoints (_ : Dialect) : Bool := true

/-- Whether rows can be compared with rows. -/
def supportsTupleComparison : Dialect → Bool
  | mysql | postgresql => true
  | sqlite | sqlserver => false

/-- What stands for the parameter with the given number, counted from one. -/
def placeholder (d : Dialect) (number : Nat) : String :=
  match d with
  | mysql | sqlite => "?"
  | postgresql => s!"${number}"
  | sqlserver => s!"@p{number}"

def beginSql : Dialect → String
  | sqlserver => "BEGIN TRANSACTION"
  | _ => "BEGIN"

def commitSql : Dialect → String
  | sqlserver => "COMMIT TRANSACTION"
  | _ => "COMMIT"

def rollbackSql : Dialect → String
  | sqlserver => "ROLLBACK TRANSACTION"
  | _ => "ROLLBACK"

def savePointSql (d : Dialect) (level : Nat) : String :=
  match d with
  | sqlserver => s!"SAVE TRANSACTION LEVEL{level}"
  | _ => s!"SAVEPOINT LEVEL{level}"

/-- None where the product releases savepoints by itself. -/
def releaseSavePointSql? (d : Dialect) (level : Nat) : Option String :=
  match d with
  | sqlserver => none
  | _ => some s!"RELEASE SAVEPOINT LEVEL{level}"

def rollbackToSavePointSql (d : Dialect) (level : Nat) : String :=
  match d with
  | sqlserver => s!"ROLLBACK TRANSACTION LEVEL{level}"
  | _ => s!"ROLLBACK TO SAVEPOINT LEVEL{level}"

def disableForeignKeysSql : Dialect → String
  | mysql => "SET foreign_key_checks = 0"
  | postgresql => "SET CONSTRAINTS ALL DEFERRED"
  | sqlite => "PRAGMA foreign_keys = OFF"
  | sqlserver => "EXEC sp_MSforeachtable \"ALTER TABLE ? NOCHECK CONSTRAINT all\""

def enableForeignKeysSql : Dialect → String
  | mysql => "SET foreign_key_checks = 1"
  | postgresql => "SET CONSTRAINTS ALL IMMEDIATE"
  | sqlite => "PRAGMA foreign_keys = ON"
  | sqlserver => "EXEC sp_MSforeachtable \"ALTER TABLE ? WITH CHECK CHECK CONSTRAINT all\""

end PortableSql.Dialect
