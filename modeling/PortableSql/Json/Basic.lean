import PortableSql.Number.Numeral
import PortableSql.SortedMap

namespace PortableSql

/-- A JSON value. Integers are those of sixty-four bits, signed or not; every other number is a
finite binary64 number. The fields of an object are in ascending order of their names. -/
inductive Json where
  | null
  | bool (value : Bool)
  | int (value : Int)
  | float (value : Binary64)
  | str (value : String)
  | arr (items : List Json)
  | obj (fields : List (String × Json))
deriving Inhabited

namespace Json

/-- The object with the given fields; of two fields with one name the later stays. -/
def ofFields (fields : List (String × Json)) : Json := .obj (SortedMap.ofList fields)

def isNull : Json → Bool
  | .null => true
  | _ => false

def field? (name : String) : Json → Option Json
  | .obj fields => SortedMap.find? name fields
  | _ => none

def str? : Json → Option String
  | .str s => some s
  | _ => none

/-- A number that is a signed sixty-four bit integer. -/
def int64? : Json → Option Int
  | .int n => if fitsInt64 n then some n else none
  | _ => none

def ofOption {α : Type} (encode : α → Json) : Option α → Json
  | none => .null
  | some a => encode a

def ofUInt32 (n : UInt32) : Json := .int (Int.ofNat n.toNat)

def strings (items : List String) : Json := .arr (items.map .str)

/-- The object with the fields that have a value. -/
def ofPresent (fields : List (String × Option Json)) : Json :=
  ofFields (fields.filterMap fun (name, value) => value.map (name, ·))

end Json

end PortableSql
