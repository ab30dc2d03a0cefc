import PortableSql.Connection.Config
import PortableSql.Dialect.Statement
import PortableSql.Driver.Basic
import PortableSql.Text.Quoted

namespace PortableSql

/-- A connection over a driver, with the state of its transaction and the log of its events. -/
structure Connection (δ : Type) where
  config : ConnectionConfig
  driver : δ
  /-- How many transactions are open inside the outermost, if that is open. -/
  nesting : Option Nat := none
  useSavePoints : Bool := false
  events : List Event := []

/-- A computation that may change a connection and may fail; what it changed before it failed stays
changed. -/
abbrev Action (δ α : Type) := ExceptT Error (StateM (Connection δ)) α

namespace Action

variable {δ α : Type}

def runOn (action : Action δ α) (c : Connection δ) : Except Error α × Connection δ :=
  StateT.run (ExceptT.run action) c

def emit (event : Event) : Action δ Unit :=
  modify fun c => { c with events := c.events ++ [event] }

def connectionId : Action δ String := return (← get).config.id

/-- Runs an operation of the driver. -/
def drive (operation : δ → Except Error α × δ) : Action δ α := fun c =>
  let (result, driver) := operation c.driver
  (result, { c with driver })

/-- The outcome of an action, as a value. -/
def attempt (action : Action δ α) : Action δ (Except Error α) := fun c =>
  let (result, c) := action.runOn c
  (.ok result, c)

end Action

namespace Connection

variable {δ : Type} [Driver δ]

def dialect (c : Connection δ) : Dialect := Driver.product c.driver

def isConnected (c : Connection δ) : Bool := Driver.isConnected c.driver

def inTransaction (c : Connection δ) : Bool := c.nesting.isSome

/-- The identifying parts of a connection, for reading by people. -/
def describe (c : Connection δ) : String :=
  let word (b : Bool) : String := if b then "true" else "false"
  "Connection \x7b " ++
    s!"id: {Text.quoted c.config.id}, db_type: {c.config.product.label}, transaction: " ++
    "TransactionState \x7b " ++
    s!"started: {word c.inTransaction}, level: {c.nesting.getD 0}" ++ " \x7d, " ++
    s!"use_save_points: {word c.useSavePoints}" ++ " \x7d"

end Connection

namespace Action

variable {δ : Type} [Driver δ]

def dialect : Action δ Dialect := return (← get).dialect

/-- Reports a statement before it is sent. -/
def announce (sql : String) (params : List Param) : Action δ Unit := do
  let config := (← get).config
  emit (.statement config.id sql params config.logQueries)

def execute (sql : String) (params : List Param) : Action δ Nat := do
  announce sql params
  drive (Driver.execute sql params)

def query (sql : String) (params : List Param) : Action δ (List Row) := do
  announce sql params
  drive (Driver.query sql params)

def lastInsertId : Action δ (Option Int) := drive Driver.lastInsertId

/-- Turns savepoints on or off; they stay off where the driver has none. The result is the new
setting. -/
def setUseSavePoints (enabled : Bool) : Action δ Bool := do
  let c ← get
  let supported := Driver.supportsSavePoints c.driver
  set { c with useSavePoints := enabled && supported }
  if enabled && !supported then emit (.savePointsUnsupported c.config.id)
  return enabled && supported

def connect : Action δ Unit := do
  let events ← drive Driver.connect
  events.forM emit

end Action

/-- A connection over a driver, with savepoints as configured. -/
def Connection.create {δ : Type} [Driver δ] (config : ConnectionConfig) (driver : δ) :
    Connection δ :=
  ((Action.setUseSavePoints config.savePoints).runOn { config, driver }).2

end PortableSql
