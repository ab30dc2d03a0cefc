import PortableSql.Store.Fault
import PortableSql.Store.Statement

namespace PortableSql.Store

inductive IndexOrigin where
  | statement
  | unique
  | primaryKey
deriving DecidableEq, Repr

/-- An index over columns, given by their positions. A column that the table lacks is a constant and
has none. -/
structure StoredIndex where
  name : String
  columns : List (Option Nat)
  isUnique : Bool
  origin : IndexOrigin

structure ForeignKey where
  columns : List Nat
  target : String
  targetColumns : List String
  onUpdate : ReferentialAction
  onDelete : ReferentialAction
deriving DecidableEq

structure StoredRow where
  number : Int
  values : List Value

/-- A table with its rows in the order of their numbers. -/
structure StoredTable where
  name : String
  columns : List StoredColumn := []
  primaryKey? : Option (List Nat) := none
  /-- The position of the column that holds the number of the row. -/
  numberColumn? : Option Nat := none
  /-- The newest first. -/
  indexes : List StoredIndex := []
  /-- The newest first. -/
  foreignKeys : List ForeignKey := []
  rows : List StoredRow := []

namespace StoredTable

def position? (t : StoredTable) (column : String) : Option Nat :=
  t.columns.findIdx? fun c => sameIgnoringCase c.name column

def columnName (t : StoredTable) (position : Nat) : String :=
  (t.columns[position]?.map (·.name)).getD ""

def affinity (t : StoredTable) (position : Nat) : Affinity :=
  (t.columns[position]?.map fun c => Affinity.ofType c.type).getD .blob

def row? (t : StoredTable) (number : Int) : Option StoredRow :=
  t.rows.find? (·.number == number)

end StoredTable

namespace StoredRow

def value (r : StoredRow) (position : Nat) : Value := r.values.getD position .null

def key (r : StoredRow) (positions : List Nat) : List Value := positions.map r.value

end StoredRow

/-- Where tables live. -/
inductive Schema where
  | main
  | temp
deriving DecidableEq, Repr

namespace Schema

def name : Schema → String
  | main => "main"
  | temp => "temp"

def ofName? (name : String) : Option Schema :=
  [main, temp].find? fun s => sameIgnoringCase s.name name

/-- The schema that a token names. -/
def ofToken (t : Token) : Except Fault Schema :=
  match ofName? t.name with
  | some s => .ok s
  | none => .error (.unknownDatabase (String.ofList t.text))

end Schema

/-- The tables of both schemas, the oldest first. -/
structure Data where
  main : List StoredTable := []
  temp : List StoredTable := []

namespace Data

def tables (d : Data) : Schema → List StoredTable
  | .main => d.main
  | .temp => d.temp

def withTables (d : Data) (s : Schema) (tables : List StoredTable) : Data :=
  match s with
  | .main => { d with main := tables }
  | .temp => { d with temp := tables }

def table? (d : Data) (s : Schema) (name : String) : Option StoredTable :=
  (d.tables s).find? fun t => sameIgnoringCase t.name name

def hasIndex (d : Data) (s : Schema) (name : String) : Bool :=
  (d.tables s).any fun t => t.indexes.any fun i => sameIgnoringCase i.name name

/-- The table that a name finds. Without a schema, temporary tables come first. -/
def find (d : Data) (n : ObjectName) : Except Fault (Schema × StoredTable) :=
  let among (schemas : List Schema) : Option (Schema × StoredTable) :=
    schemas.findSome? fun s => (d.table? s n.base.name).map (s, ·)
  let found :=
    match n.schema? with
    | some schema => among (Schema.ofName? schema.name).toList
    | none => among [.temp, .main]
  match found with
  | some t => .ok t
  | none => .error (.noTable n.shown)

/-- Replaces the table of the same name. -/
def put (d : Data) (s : Schema) (t : StoredTable) : Data :=
  d.withTables s ((d.tables s).map fun u => if u.name == t.name then t else u)

def remove (d : Data) (s : Schema) (t : StoredTable) : Data :=
  d.withTables s ((d.tables s).filter (·.name != t.name))

end Data

/-- Names that begin like those of the catalog's own tables are not given. -/
def isReservedName (name : String) : Bool :=
  Chars.startsWith "sqlite_".toList (Chars.asciiLower name.toList)

end PortableSql.Store
