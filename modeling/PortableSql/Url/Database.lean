import PortableSql.Connection.Config
import PortableSql.Error
import PortableSql.Text.Blank
import PortableSql.Url.Library

namespace PortableSql

/-- A database URL, taken apart into what the library needs and what is left for the driver. -/
structure DatabaseUrl where
  id : String
  /-- The URL without the options of the library. -/
  connectionString : String
  database : Option String
  schema : Option String
  savePoints : Bool
  logQueries : Bool

namespace DatabaseUrl

/-- The options of the library, which are not passed on. -/
def optionKeys : List String := ["save_points", "log_queries", "schema"]

def optionKey (pair : Form.Pair) : String := String.ofList (Chars.asciiLower pair.1.toList)

def isOption (pair : Form.Pair) : Bool := optionKeys.contains (optionKey pair)

/-- The value of the last pair with the key. -/
def option? (key : String) (pairs : List Form.Pair) : Option String :=
  ((pairs.filter (optionKey · == key)).getLast?).map (·.2)

def isTrue (value : String) : Bool :=
  ["true", "1", "yes"].contains (String.ofList (Chars.asciiLower value.toList))

/-- Removes the ending as often as it is there. -/
def stripAll (ending : List Char) : Nat → List Char → List Char
  | 0, text => text
  | fuel + 1, text =>
    match Chars.stripEnd? ending text with
    | some rest => stripAll ending fuel rest
    | none => text

def stripEndings (text : List Char) : List Char :=
  [".sqlite3", ".sqlite", ".db"].foldl (fun t e => stripAll e.toList t.length t) text

/-- The database: the last segment of the path without the endings of database files. -/
def databaseName? (path : List Char) : Option String :=
  let last := ((Chars.splitOn '/' path).getLast?).getD []
  if last.isEmpty || last.head? = some ':' then none
  else
    let name := stripEndings last
    if name.isEmpty then none else some (String.ofList name)

/-- The name in front of an equals sign before the scheme, and the URL after it. -/
def cutName (text : List Char) : Option (List Char) × List Char :=
  let head := text.takeWhile (· != ':')
  match Chars.cutFirst '=' head with
  | some (name, _) => (some name, text.drop (name.length + 1))
  | none => (none, text)

section

open UrlLibrary

variable (υ : Type) [UrlLibrary υ]

/-- Reads a URL with a library for URLs. -/
def read (text : String) : Except Error DatabaseUrl := do
  let (name, urlText) := cutName text.toList
  let url ←
    match (UrlLibrary.read urlText : Except String υ) with
    | .ok url => pure url
    | .error fault => throw (.invalidInput s!"Invalid URL: {fault}")
  if (Dialect.ofConnectionString? (String.ofList (UrlLibrary.text url))).isNone then
    throw (.invalidInput (s!"Unsupported database scheme '{String.ofList (scheme url)}'. " ++
      "Use mysql://, postgres://, sqlite: or sqlserver://"))
  let pairs := queryPairs url
  let remaining := pairs.filter (!isOption ·)
  let url := if remaining.isEmpty then withoutQuery url else withQueryPairs url remaining
  let database := databaseName? (path url)
  let id :=
    match name, database with
    | some name, _ => String.ofList (Chars.trim name)
    | none, some database => database
    | none, none => "default"
  return {
    id
    connectionString := String.ofList (UrlLibrary.text url)
    database
    schema := (option? "schema" pairs).filter (· != "")
    savePoints := (option? "save_points" pairs).any isTrue
    logQueries := (option? "log_queries" pairs).any isTrue }

end

/-- The configuration of a connection to the database. -/
def toConfig (u : DatabaseUrl) : Except ConfigFault ConnectionConfig :=
  (ConnectionConfig.create u.id u.connectionString).map fun config =>
    { config with
      database := u.database, schema := u.schema
      savePoints := u.savePoints, logQueries := u.logQueries }

end DatabaseUrl

end PortableSql
