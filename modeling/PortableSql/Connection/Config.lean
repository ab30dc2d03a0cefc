import PortableSql.Dialect
import PortableSql.Json.Record
import PortableSql.Text.Letter

namespace PortableSql

/-- Why a connection cannot be configured. -/
inductive ConfigFault where
  | emptyId
  | invalidId (id : String)
  | unknownProduct (connectionString : String)
deriving DecidableEq, Repr

namespace ConfigFault

def kind : ConfigFault → String
  | emptyId => "EmptyId"
  | invalidId _ => "InvalidId"
  | unknownProduct _ => "UnknownDatabaseType"

def message : ConfigFault → String
  | emptyId => "Connection ID cannot be empty"
  | invalidId id => s!"Connection ID contains invalid characters: {id}"
  | unknownProduct connectionString =>
    s!"Unknown database type in connection string: {connectionString}"

end ConfigFault

structure ConnectionConfig where
  id : String
  product : Dialect
  connectionString : String
  database : Option String := none
  /-- The schema that is described, instead of the product's default. -/
  schema : Option String := none
  savePoints : Bool := false
  /-- Whether statements are reported with their parameters. -/
  logQueries : Bool := false
deriving Inhabited

namespace ConnectionConfig

def isIdChar (c : Char) : Bool := Text.isAlphanumeric c || c == '-' || c == '_'

/-- A configuration for the product that the connection string names. -/
def create (id connectionString : String) : Except ConfigFault ConnectionConfig :=
  if id = "" then .error .emptyId
  else if !id.toList.all isIdChar then .error (.invalidId id)
  else
    match Dialect.ofConnectionString? connectionString with
    | some product => .ok { id, product, connectionString }
    | none => .error (.unknownProduct connectionString)

/-- Hides what stands between the last colon before the first at sign and that sign, unless the
colon is the one after the scheme. -/
def mask (text : List Char) : List Char :=
  match Chars.cutFirst '@' text with
  | none => text
  | some (before, after) =>
    match Chars.cutLast ':' before with
    | none => text
    | some (opening, _) =>
      if Chars.includes "://".toList opening then opening ++ ":****@".toList ++ after else text

/-- The connection string without the password. -/
def masked (config : ConnectionConfig) : String :=
  String.ofList (mask config.connectionString.toList)

open Json

/-- The JSON form, which leaves out the connection string. -/
def toJson (config : ConnectionConfig) : Json :=
  ofFields
    [("id", .str config.id), ("db_type", .str config.product.key),
     ("database", ofOption .str config.database), ("schema", ofOption .str config.schema),
     ("save_points", .bool config.savePoints), ("log_queries", .bool config.logQueries)]

def ofJson? (value : Json) : Option ConnectionConfig := do
  let fields ←
    record? ["id", "db_type", "connection_string", "database", "schema", "save_points",
      "log_queries"] 4 value
  let id ← required readString "id" fields
  let product ← required (readName Dialect.ofKey?) "db_type" fields
  let connectionString ← required readString "connection_string" fields
  let database ← optional readString "database" fields
  let schema ← optional readString "schema" fields
  let savePoints ← defaulted readBool false "save_points" fields
  let logQueries ← defaulted readBool false "log_queries" fields
  return { id, product, connectionString, database, schema, savePoints, logQueries }

end ConnectionConfig

end PortableSql
