import PortableSql.Param
import PortableSql.Text.Bytes

namespace PortableSql.Store

/-- A value in a cell. Text is kept as bytes, which need not be valid. -/
inductive Value where
  | null
  | int (n : Int)
  | real (x : Binary64)
  | text (bytes : Bytes)
  | blob (bytes : Bytes)
deriving DecidableEq, Inhabited

namespace Value

def ofText (s : String) : Value := text (Bytes.ofText s)

/-- Truth values are the integers 0 and 1, arrays and objects their JSON text. -/
def ofParam : Param → Value
  | .null => null
  | .bool b => int (if b then 1 else 0)
  | .int n => int n
  | .float x => real x
  | .string s => ofText s
  | .json value => ofText value.render

/-- Whether two values are equal where neither is null: numbers by value, text and blobs byte by
byte. -/
def same : Value → Value → Bool
  | int m, int n => m == n
  | int n, real x => x.toInt? == some n
  | real x, int n => x.toInt? == some n
  | real x, real y => x == y || (x.isZero && y.isZero)
  | text a, text b => a == b
  | blob a, blob b => a == b
  | _, _ => false

/-- The name of the kind of value. -/
def kind : Value → String
  | null => "NULL"
  | int _ => "INTEGER"
  | real _ => "REAL"
  | text _ => "TEXT"
  | blob _ => "BLOB"

end Value

/-- Whether two keys are the same and without nulls. -/
def sameKey : List Value → List Value → Bool
  | [], [] => true
  | a :: as, b :: bs => a.same b && sameKey as bs
  | _, _ => false

end PortableSql.Store
