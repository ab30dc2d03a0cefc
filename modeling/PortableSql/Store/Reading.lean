import PortableSql.Store.Value
import PortableSql.TypeCategory

namespace PortableSql.Store

/-- The type name under which values of a declared type are read, if the declaration has one. -/
def readingName? (declared : String) : Option String :=
  let lower := Chars.asciiLower declared.toList
  let has (mark : String) : Bool := Chars.includes mark.toList lower
  match String.ofList lower with
  | "boolean" | "bool" => some "BOOLEAN"
  | "date" => some "DATE"
  | "time" => some "TIME"
  | "datetime" | "timestamp" => some "DATETIME"
  | _ =>
    if has "int" then some "INTEGER"
    else if has "char" || has "clob" || has "text" then some "TEXT"
    else if has "blob" then some "BLOB"
    else if has "real" || has "floa" || has "doub" then some "REAL"
    else none

namespace Value

/-- A value as it is: infinite numbers are texts, and so are the bytes of texts and blobs. -/
def plain : Value → Json
  | null => .null
  | int n => .int n
  | real x =>
    if x.isFinite then .float x else .str (if x.isNegative then "-inf" else "inf")
  | text bytes => .str bytes.readable
  | blob bytes => .str bytes.readable

/-- A value as the declared type of its column has it read. What a boolean or binary column cannot
be read as is null; any other column gives the value as it is. -/
def read (declared : String) (v : Value) : Json :=
  match TypeCategory.ofTypeName .sqlite ((readingName? declared).getD v.kind), v with
  | .boolean, int n => .bool (n != 0)
  | .boolean, _ => .null
  | .binary, text bytes => .str bytes.readable
  | .binary, blob bytes => .str bytes.readable
  | .binary, _ => .null
  | _, v => v.plain

end Value

end PortableSql.Store
