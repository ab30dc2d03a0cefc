import PortableSql.ColumnType
import PortableSql.Dialect
import PortableSql.Json.Printer

namespace PortableSql.Dialect

def startQuote : Dialect → Char
  | mysql => '\x60'
  | postgresql => '"'
  | sqlite => '"'
  | sqlserver => '['

def endQuote : Dialect → Char
  | mysql => '\x60'
  | postgresql => '"'
  | sqlite => '"'
  | sqlserver => ']'

/-- One segment of a name in quotes, the end quote inside it doubled. A bare star stays. -/
def quoteSegment (d : Dialect) (segment : List Char) : List Char :=
  if segment = ['*'] then ['*']
  else d.startQuote :: Chars.double d.endQuote segment ++ [d.endQuote]

def quoteName (d : Dialect) (name : List Char) : List Char :=
  ['.'].intercalate ((Chars.splitOn '.' name).map d.quoteSegment)

/-- A name in quotes, segment by segment where it is dotted. -/
def quoteIdentifier (d : Dialect) (name : String) : String :=
  String.ofList (d.quoteName name.toList)

def quoteIdentifiers (d : Dialect) (names : List String) : String :=
  commaSeparated (names.map d.quoteIdentifier)

def boolLiteral (d : Dialect) (value : Bool) : String :=
  match d with
  | sqlserver => if value then "1" else "0"
  | _ => if value then "TRUE" else "FALSE"

/-- A text as a string literal, its quotes doubled. -/
def quoteString (text : String) : String :=
  String.ofList ('\'' :: Chars.double '\'' text.toList ++ ['\''])

/-- The words and calls for the current time, in upper case. -/
def timeKeywords : List String :=
  ["CURRENT_TIMESTAMP", "CURRENT_DATE", "CURRENT_TIME", "NOW()", "LOCALTIMESTAMP", "GETDATE()"]

/-- A text for a column of the given type: a current-time keyword of a temporal column and a truth
value of a boolean column are no string literals. -/
def quoteText (d : Dialect) (text : String) (type : Option ColumnType) : String :=
  if type.any (·.isTemporal) && timeKeywords.contains (upperCase text) then upperCase text
  else if type = some .boolean then
    match lowerCase text with
    | "true" | "1" => d.boolLiteral true
    | "false" | "0" => d.boolLiteral false
    | _ => quoteString text
  else quoteString text

/-- A value as a literal. Arrays and objects are written as the string of their JSON text. -/
def quote (d : Dialect) (value : Json) (type : Option ColumnType) : String :=
  match value with
  | .null => "NULL"
  | .bool b => d.boolLiteral b
  | .int n => toString n
  | .float x => Json.floatText x
  | .str s => d.quoteText s type
  | value => quoteString value.render

end PortableSql.Dialect
