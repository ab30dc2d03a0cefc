import PortableSql.ColumnType
import PortableSql.Json.Basic
import PortableSql.Keyed
import PortableSql.SortedMap
import PortableSql.Table.Kinds

namespace PortableSql

structure Column where
  name : String
  type : ColumnType
  length : Option UInt32 := none
  /-- The scale of a decimal or the precision of a float. -/
  precision : Option UInt32 := none
  /-- `false` forbids nulls, and `true` allows an explicit null default. -/
  nullable : Option Bool := none
  default : Option Json := none
  fixed : Bool := false
  comment : Option String := none
  unsigned : Bool := false
  autoIncrement : Option Bool := none
deriving Inhabited

namespace Column

def ofType (type : ColumnType) : Column := { name := "", type }

/-- The default, where a null counts as no default. -/
def defaultValue? (column : Column) : Option Json := column.default.filter (!·.isNull)

/-- The comment, where an empty text counts as no comment. -/
def filledComment? (column : Column) : Option String := column.comment.filter (· != "")

end Column

structure Index where
  name : String
  kind : IndexKind
  columns : List String
  /-- How much of a column's text is indexed, by column. -/
  lengths : SortedMap UInt32 := []
deriving Inhabited

structure Constraint where
  name : String
  kind : ConstraintKind
  columns : List String
  /-- The referenced table, then the referenced columns. -/
  references : List String := []
  onUpdate : ReferentialAction := .restrict
  onDelete : ReferentialAction := .restrict
deriving Inhabited

namespace Constraint

def referencedTable? (c : Constraint) : Option String := c.references.head?

def referencedColumns (c : Constraint) : List String := c.references.tail

end Constraint

structure Table where
  name : String
  columns : List Column := []
  indexes : List Index := []
  constraints : List Constraint := []
  options : SortedMap String := []
  temporary : Bool := false
deriving Inhabited

namespace Table

def column? (t : Table) (name : String) : Option Column := Keyed.find? Column.name name t.columns

def hasColumn (t : Table) (name : String) : Bool := Keyed.has Column.name name t.columns

def columnNames (t : Table) : List String := t.columns.map Column.name

def columnType? (t : Table) (name : String) : Option ColumnType :=
  (t.column? name).map Column.type

def index? (t : Table) (name : String) : Option Index := Keyed.find? Index.name name t.indexes

def constraint? (t : Table) (name : String) : Option Constraint :=
  Keyed.find? Constraint.name name t.constraints

def primaryKey? (t : Table) : Option (List String) :=
  (t.constraints.find? (·.kind == .primary)).map Constraint.columns

/-- Whether the database generates the values: an integer column that is marked so, or that is not
marked and is the whole primary key. -/
def isSerial (t : Table) (column : Column) : Bool :=
  column.type.isInteger &&
    match column.autoIncrement with
    | some flag => flag
    | none => t.primaryKey? == some [column.name]

def hasSerial (t : Table) : Bool := t.columns.any t.isSerial

end Table

end PortableSql
