import PortableSql.Connection.Basic
import PortableSql.Driver.Address
import PortableSql.Store.Basic

namespace PortableSql

/-- The driver that comes with the library. It runs statements on private SQLite databases in
memory; nothing else that its connection strings name can be reached. -/
structure BundledDriver where
  product : Dialect
  connectionString : String
  store? : Option Store := none
  /-- The number of the last row that a statement is known to have added. -/
  lastNumber? : Option Int := none

namespace BundledDriver

/-- A driver for the configured product, not yet connected. -/
def create (config : ConnectionConfig) : Except Error BundledDriver :=
  match config.product with
  | .sqlserver => .error (Address.missingDriver .sqlserver)
  | product => .ok { product, connectionString := config.connectionString }

def isConnected (d : BundledDriver) : Bool := d.store?.isSome

def connect (d : BundledDriver) : Except Error (List Event) × BundledDriver :=
  match d.store? with
  | some _ => (.ok [], d)
  | none =>
    match Address.reach d.product d.connectionString with
    | .ok _ => (.ok [.connected d.product], { d with store? := some {} })
    | .error e => (.error e, d)

/-- Ends the connection, and the database with it. -/
def disconnect (d : BundledDriver) : List Event × BundledDriver :=
  match d.store? with
  | none => ([], d)
  | some _ => ([.disconnected d.product], { d with store? := none, lastNumber? := none })

def run (sql : String) (params : List Param) (d : BundledDriver) :
    Except Error (List Row × Store) :=
  match d.store? with
  | none => .error .notConnected
  | some store => (store.run sql params).mapError Store.Fault.toError

/-- The number of the last row added is remembered where it is positive. -/
def execute (sql : String) (params : List Param) (d : BundledDriver) :
    Except Error Nat × BundledDriver :=
  match d.run sql params with
  | .error e => (.error e, d)
  | .ok (_, store) =>
    let lastNumber? := if 0 < store.lastNumber then some store.lastNumber else d.lastNumber?
    (.ok store.changes, { d with store? := some store, lastNumber? })

def query (sql : String) (params : List Param) (d : BundledDriver) :
    Except Error (List Row) × BundledDriver :=
  match d.run sql params with
  | .error e => (.error e, d)
  | .ok (rows, store) => (.ok rows, { d with store? := some store })

/-- PostgreSQL keeps the number on the server, which has to be asked. -/
def lastInsertId (d : BundledDriver) : Except Error (Option Int) × BundledDriver :=
  match d.product with
  | .postgresql => (.error .notConnected, d)
  | _ => (.ok d.lastNumber?, d)

instance : Driver BundledDriver where
  product := BundledDriver.product
  supportsSavePoints d := d.product.supportsSavePoints
  isConnected := BundledDriver.isConnected
  connect := BundledDriver.connect
  disconnect := BundledDriver.disconnect
  execute := BundledDriver.execute
  query := BundledDriver.query
  lastInsertId := BundledDriver.lastInsertId

end BundledDriver

end PortableSql
