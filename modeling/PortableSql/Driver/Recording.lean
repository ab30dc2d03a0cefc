import PortableSql.Dialect.Statement
import PortableSql.Driver.Basic
import PortableSql.Text.Blank

namespace PortableSql

structure RecordedStatement where
  sql : String
  params : List Param
  isQuery : Bool

/-- The answer prepared for a query. -/
inductive Prepared where
  | rows (rows : List Row)
  | failure (message : String)

/-- A driver that keeps the statements it is given and runs none. The next query that contains a
pattern of the script gets the answer prepared for it, once. -/
structure RecordingDriver where
  product : Dialect
  connected : Bool := true
  statements : List RecordedStatement := []
  script : List (String × Prepared) := []
  failures : List String := []
  savePoints : Option Bool := none
  inserts : Nat := 0

namespace RecordingDriver

def mentions (sql pattern : String) : Bool := Chars.includes pattern.toList sql.toList

def onQuery (d : RecordingDriver) (pattern : String) (rows : List Row) : RecordingDriver :=
  { d with script := d.script ++ [(pattern, .rows rows)] }

def failQuery (d : RecordingDriver) (pattern message : String) : RecordingDriver :=
  { d with script := d.script ++ [(pattern, .failure message)] }

/-- Makes every command fail that contains the pattern. -/
def failExecute (d : RecordingDriver) (pattern : String) : RecordingDriver :=
  { d with failures := d.failures ++ [pattern] }

def sql (d : RecordingDriver) : List String := d.statements.map RecordedStatement.sql

def queryCount (d : RecordingDriver) : Nat := d.statements.countP RecordedStatement.isQuery

def record (d : RecordingDriver) (statement : RecordedStatement) : RecordingDriver :=
  { d with statements := d.statements ++ [statement] }

def isInsert (sql : String) : Bool :=
  Chars.startsWith "INSERT".toList (Chars.upper (Chars.trimStart sql.toList))

def execute (sql : String) (params : List Param) (d : RecordingDriver) :
    Except Error Nat × RecordingDriver :=
  if !d.connected then (.error .notConnected, d)
  else
    let d := d.record { sql, params, isQuery := false }
    if d.failures.any (mentions sql) then
      (.error (.database s!"scripted failure for: {sql}" none "Remove the scripted failure"), d)
    else if isInsert sql then (.ok 0, { d with inserts := d.inserts + 1 })
    else (.ok 0, d)

/-- Takes the first entry that the statement mentions out of the script. -/
def takePrepared (sql : String) : List (String × Prepared) →
    Option Prepared × List (String × Prepared)
  | [] => (none, [])
  | (pattern, prepared) :: rest =>
    if mentions sql pattern then (some prepared, rest)
    else
      let (found, others) := takePrepared sql rest
      (found, (pattern, prepared) :: others)

def query (sql : String) (params : List Param) (d : RecordingDriver) :
    Except Error (List Row) × RecordingDriver :=
  if !d.connected then (.error .notConnected, d)
  else
    let d := d.record { sql, params, isQuery := true }
    let (prepared, script) := takePrepared sql d.script
    let d := { d with script }
    match prepared with
    | none => (.ok [], d)
    | some (.rows rows) => (.ok rows, d)
    | some (.failure message) =>
      (.error (.database message none "Check the scripted query"), d)

def describe (d : RecordingDriver) : String :=
  "RecordingDriver \x7b " ++
    s!"db_type: {d.product.label}, statements: {d.statements.length}" ++ " \x7d"

instance : Driver RecordingDriver where
  product := RecordingDriver.product
  supportsSavePoints d := d.savePoints.getD d.product.supportsSavePoints
  isConnected := RecordingDriver.connected
  connect d := (.ok [], { d with connected := true })
  disconnect d := ([], { d with connected := false })
  execute := RecordingDriver.execute
  query := RecordingDriver.query
  lastInsertId d := (.ok (if 0 < d.inserts then some (Int.ofNat d.inserts) else none), d)

end RecordingDriver

end PortableSql
