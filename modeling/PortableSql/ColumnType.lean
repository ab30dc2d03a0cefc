import PortableSql.Error
import PortableSql.Text.Casing

namespace PortableSql

/-- The column types every product can store. -/
inductive ColumnType where
  | string
  | text
  | uuid
  | integer
  | bigInteger
  | float
  | decimal
  | boolean
  | date
  | time
  | dateTime
  | timestamp
  | binary
  | json
deriving DecidableEq, Repr, Inhabited

namespace ColumnType

def all : List ColumnType :=
  [string, text, uuid, integer, bigInteger, float, decimal, boolean, date, time, dateTime,
   timestamp, binary, json]

def name : ColumnType → String
  | string => "string"
  | text => "text"
  | uuid => "uuid"
  | integer => "integer"
  | bigInteger => "biginteger"
  | float => "float"
  | decimal => "decimal"
  | boolean => "boolean"
  | date => "date"
  | time => "time"
  | dateTime => "datetime"
  | timestamp => "timestamp"
  | binary => "binary"
  | json => "json"

def ofName? (name : String) : Option ColumnType := all.find? (·.name == name)

/-- A type name in any case. -/
def read (text : String) : Except Error ColumnType :=
  match ofName? (lowerCase text) with
  | some type => .ok type
  | none => .error (.validation s!"Unknown column type '{lowerCase text}'" text)

def isInteger : ColumnType → Bool
  | integer | bigInteger => true
  | _ => false

theorem isInteger_iff {type : ColumnType} :
    type.isInteger = true ↔ type = integer ∨ type = bigInteger := by
  cases type <;> decide

def isNumeric : ColumnType → Bool
  | integer | bigInteger | float | decimal => true
  | _ => false

def isTemporal : ColumnType → Bool
  | date | time | dateTime | timestamp => true
  | _ => false

end ColumnType

end PortableSql
