import PortableSql.Dialect

namespace PortableSql

/-- What kind of value a native type name promises. -/
inductive TypeCategory where
  | integer
  | float
  | decimal
  | boolean
  | text
  | binary
  | json
  | uuid
  | temporal
  | unknown
deriving DecidableEq, Repr

namespace TypeCategory

def name : TypeCategory → String
  | integer => "Integer"
  | float => "Float"
  | decimal => "Decimal"
  | boolean => "Boolean"
  | text => "Text"
  | binary => "Binary"
  | json => "Json"
  | uuid => "Uuid"
  | temporal => "Temporal"
  | unknown => "Unknown"

/-- The first rule that fits decides, from exact numbers down to character types. SQLite keeps
dates as text and `numeric` as a float. -/
def ofTypeName (product : Dialect) (typeName : String) : TypeCategory :=
  let lower := Chars.lower typeName.toList
  let has (mark : String) : Bool := Chars.includes mark.toList lower
  let is (word : String) : Bool := lower == word.toList
  let begins (mark : String) : Bool := Chars.startsWith mark.toList lower
  if has "decimal" || has "numeric" then
    if product = .sqlite && is "numeric" then float else decimal
  else if has "interval" || has "point" then unknown
  else if has "int" || has "serial" then integer
  else if is "bool" || is "boolean" then boolean
  else if has "float" || has "double" || is "real" then float
  else if is "json" || is "jsonb" then json
  else if is "uuid" then uuid
  else if has "blob" || has "binary" || is "bytea" then binary
  else if product ≠ .sqlite && (begins "timestamp" || begins "datetime" || is "date" ||
      begins "time") then temporal
  else if has "char" || has "text" || is "name" then text
  else unknown

end TypeCategory

end PortableSql
