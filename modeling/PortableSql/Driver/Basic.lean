import PortableSql.Event
import PortableSql.Row

namespace PortableSql

/-- What sends statements to a database product. A driver is a value; every operation returns the
driver after it, also where it fails. -/
class Driver (δ : Type) where
  product : δ → Dialect
  supportsSavePoints : δ → Bool
  isConnected : δ → Bool
  connect : δ → Except Error (List Event) × δ
  disconnect : δ → List Event × δ
  /-- Runs a statement and counts the rows it changed. -/
  execute : String → List Param → δ → Except Error Nat × δ
  query : String → List Param → δ → Except Error (List Row) × δ
  lastInsertId : δ → Except Error (Option Int) × δ

/-- The error of a driver that is asked before it is connected. -/
def Error.notConnected : Error :=
  .connection "Driver is not connected" "Call connect() before issuing statements"

end PortableSql
