import PortableSql.Store.Catalog
import PortableSql.Store.Define
import PortableSql.Store.Delete
import PortableSql.Store.Insert
import PortableSql.Store.Reader

namespace PortableSql

/-- A private database in memory with the rules of SQLite. -/
structure Store where
  data : Store.Data := {}
  /-- The data at the start of the open transaction. -/
  begun? : Option Store.Data := none
  /-- The open savepoints with the data at each, the newest first. -/
  savePoints : List (String × Store.Data) := []
  /-- Whether a savepoint opened the transaction, which ends with it. -/
  endsWithSavePoint : Bool := false
  enforcing : Bool := true
  lastNumber : Int := 0
  /-- How many rows the last insertion or deletion changed. -/
  changes : Nat := 0

namespace Store

/-- The savepoints before the newest of a name, and that savepoint. -/
def openSavePoint (name : String) :
    List (String × Data) → Except Fault (List (String × Data) × String × Data)
  | [] => .error (.noSavePoint name)
  | point :: older =>
    if sameIgnoringCase point.1 name then .ok (older, point) else openSavePoint name older

def begin (s : Store) : Except Fault Store :=
  match s.begun? with
  | some _ => .error .nestedTransaction
  | none => .ok { s with begun? := some s.data, endsWithSavePoint := false }

def closed (s : Store) : Store :=
  { s with begun? := none, savePoints := [], endsWithSavePoint := false }

def commit (s : Store) : Except Fault Store :=
  match s.begun? with
  | none => .error .nothingToCommit
  | some _ => .ok s.closed

def rollback (s : Store) : Except Fault Store :=
  match s.begun? with
  | none => .error .nothingToRollBack
  | some data => .ok { s.closed with data }

def savePoint (s : Store) (name : String) : Store :=
  let s := if s.begun?.isSome then s else { s with begun? := some s.data, endsWithSavePoint := true }
  { s with savePoints := (name, s.data) :: s.savePoints }

def release (s : Store) (name : String) : Except Fault Store := do
  let (older, _) ← openSavePoint name s.savePoints
  if older.isEmpty && s.endsWithSavePoint then return s.closed
  else return { s with savePoints := older }

/-- Goes back to a savepoint, which stays open. -/
def rollbackTo (s : Store) (name : String) : Except Fault Store := do
  let (older, point) ← openSavePoint name s.savePoints
  return { s with data := point.2, savePoints := point :: older }

/-- The values of terms, the parameters taken in order. A missing parameter is null. -/
def bind : List Value → List Term → List Value
  | _, [] => []
  | params, .constant v :: terms => v :: bind params terms
  | params, .mark :: terms => params.headD .null :: bind params.tail terms

/-- What a statement answers and leaves behind. Inside a transaction keys stay enforced or not as
they were. -/
def perform (s : Store) (params : List Value) : Statement → Except Fault (List ResultRow × Store)
  | .begin => return ([], ← s.begin)
  | .commit => return ([], ← s.commit)
  | .rollback => return ([], ← s.rollback)
  | .savePoint name => return ([], s.savePoint name)
  | .release name => return ([], ← s.release name)
  | .rollbackTo name => return ([], ← s.rollbackTo name)
  | .enforce foreignKeys =>
    return ([], if s.begun?.isSome then s else { s with enforcing := foreignKeys })
  | .createTable text => return ([], { s with data := ← s.data.createTable text })
  | .createIndex isUnique name table columns =>
    return ([], { s with data := ← s.data.createIndex isUnique name table columns })
  | .dropTable name => return ([], { s with data := ← s.data.dropTable s.enforcing name })
  | .insert name columns? terms => do
    let (number, data) ← s.data.insert s.enforcing name columns? (bind params terms)
    return ([], { s with data, lastNumber := number, changes := 1 })
  | .delete name => do
    let (changes, data) ← s.data.delete s.enforcing name
    return ([], { s with data, changes })
  | .rows name => do
    let (_, t) ← s.data.find name
    return (Data.allRows t, s)
  | .values items =>
    let values := bind params (items.map (·.1))
    return ([List.zipWith (fun item v => (item.2, "", v)) items values], s)
  | .tables schema => return (← s.data.tableRows schema, s)

/-- Runs the text of a statement. A statement that fails changes nothing. -/
def run (s : Store) (sql : String) (params : List Param) : Except Fault (List Row × Store) := do
  let values := params.map Value.ofParam
  match catalogQueries.find? (·.1 == sql), params with
  | some (_, rows), .string table :: .string schema :: _ =>
    return ((← s.data.ask rows table schema).map ResultRow.read, s)
  | _, _ =>
    let (rows, s) ← s.perform values (← Statement.read sql)
    return (rows.map ResultRow.read, s)

end Store

end PortableSql
