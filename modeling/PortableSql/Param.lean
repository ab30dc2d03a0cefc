import PortableSql.Json.Printer
import PortableSql.Text.Quoted

namespace PortableSql

/-- A value bound to a statement. -/
inductive Param where
  | null
  | bool (value : Bool)
  | int (value : Int)
  | float (value : Binary64)
  | string (value : String)
  | json (value : Json)
deriving Inhabited

/-- Numbers with an exponent from -4 to 15 are positional, others have an exponent without plus. -/
def shownNumber : Notation := ⟨-4, 15, false, 0, false⟩

/-- The nearest binary64 number to an integer beyond sixty-four signed bits. -/
def Param.ofInteger (n : Int) : Param :=
  if fitsInt64 n then .int n else .float (Binary64.ofInt n)

namespace Json

mutual

/-- The text of a value that names the kind of each part. -/
def describe : Json → String
  | .null => "Null"
  | .bool b => if b then "Bool(true)" else "Bool(false)"
  | .int n => s!"Number({n})"
  | .float x => s!"Number({floatText x})"
  | .str s => s!"String({Text.quoted s})"
  | .arr items => "Array [" ++ describeItems items ++ "]"
  | .obj fields => "Object \x7b" ++ describeFields fields ++ "\x7d"

def describeItems : List Json → String
  | [] => ""
  | [item] => describe item
  | item :: items => describe item ++ ", " ++ describeItems items

def describeFields : List (String × Json) → String
  | [] => ""
  | [(name, value)] => Text.quoted name ++ ": " ++ describe value
  | (name, value) :: fields =>
    Text.quoted name ++ ": " ++ describe value ++ ", " ++ describeFields fields

end

end Json

namespace Param

def isNull : Param → Bool
  | null => true
  | _ => false

def typeName : Param → String
  | null => "null"
  | bool _ => "bool"
  | int _ => "int"
  | float _ => "float"
  | string _ => "string"
  | json _ => "json"

def ofJson : Json → Param
  | .null => null
  | .bool b => bool b
  | .int n => ofInteger n
  | .float x => float x
  | .str s => string s
  | value => json value

def value : Param → Json
  | null => .null
  | bool b => .bool b
  | int n => .int n
  | float x => .float x
  | string s => .str s
  | json value => value

def describe : Param → String
  | null => "Null"
  | bool b => if b then "Bool(true)" else "Bool(false)"
  | int n => s!"Int({n})"
  | float x => s!"Float({shownNumber.render x.isNegative (Decimal.shortest x)})"
  | string s => s!"String({Text.quoted s})"
  | json value => s!"Json({value.describe})"

def describeAll (params : List Param) : String :=
  "[" ++ String.intercalate ", " (params.map describe) ++ "]"

end Param

end PortableSql
