import PortableSql.Dialect.Statement
import PortableSql.Error
import PortableSql.Text.Blank

namespace PortableSql

/-- What a tuple of columns is compared with; all texts are fragments of SQL. -/
inductive TupleValues where
  | rows (list : List (List String))
  | subquery (table : String) (columns : List String) (conditions : Option String)

namespace TupleValues

/-- Why a comparison cannot be written. -/
inductive Fault where
  | noColumns
  | rowWidth (width columns : Nat)
  | subqueryWidth (width columns : Nat)
deriving DecidableEq, Repr

namespace Fault

def message : Fault → String
  | noColumns => "tuple comparison needs at least one column"
  | rowWidth width columns => s!"tuple of {width} values compared against {columns} columns"
  | subqueryWidth width columns =>
    s!"sub-select of {width} columns compared against {columns} columns"

def toError (fault : Fault) : Error := .invalidInput fault.message

end Fault

/-- The columns are compared with as many values. -/
def fault? (columns : List String) (values : TupleValues) : Option Fault :=
  if columns.isEmpty then some .noColumns
  else
    match values with
    | rows list =>
      (list.find? (·.length != columns.length)).map fun row => .rowWidth row.length columns.length
    | subquery _ inner _ =>
      if inner.length = columns.length then none
      else some (.subqueryWidth inner.length columns.length)

/-- Blank conditions are no conditions. -/
def filled? (conditions : Option String) : Option String :=
  conditions.filter fun text => !(Chars.trim text.toList).isEmpty

def parenthesized (items : List String) : String := s!"({commaSeparated items})"

/-- The comparison of a row value. -/
def rowValueSql (columns : List String) : TupleValues → String
  | rows [] => "1 = 0"
  | rows list =>
    s!"{parenthesized columns} IN ({commaSeparated (list.map parenthesized)})"
  | subquery table inner conditions =>
    let filter := match filled? conditions with
      | some text => s!" WHERE {text}"
      | none => ""
    s!"{parenthesized columns} IN (SELECT {commaSeparated inner} FROM {table}{filter})"

def equalities (left right : List String) : List String :=
  List.zipWith (fun l r => s!"{l} = {r}") left right

/-- The comparison without row values: a disjunction of conjunctions, or a look-up of one row,
limited at its start or at its end. -/
def expandedSql (limitFirst : Bool) (columns : List String) : TupleValues → String
  | rows [] => "1 = 0"
  | rows list =>
    let disjuncts := list.map fun row =>
      "(" ++ String.intercalate " AND " (equalities columns row) ++ ")"
    "(" ++ String.intercalate " OR " disjuncts ++ ")"
  | subquery table inner conditions =>
    let filters := ((filled? conditions).map fun text => s!"({text})").toList ++
      equalities inner columns
    let select := if limitFirst then "SELECT TOP 1 1" else "SELECT 1"
    let limit := if limitFirst then "" else " LIMIT 1"
    s!"1 = ({select} FROM {table} WHERE " ++ String.intercalate " AND " filters ++ limit ++ ")"

end TupleValues

namespace Dialect

/-- The comparison of a tuple of columns with a list of rows or a sub-select. -/
def tupleSql (d : Dialect) (columns : List String) (values : TupleValues) :
    Except TupleValues.Fault String :=
  match TupleValues.fault? columns values with
  | some fault => .error fault
  | none =>
    .ok (if d.supportsTupleComparison then TupleValues.rowValueSql columns values
      else TupleValues.expandedSql (d = .sqlserver) columns values)

end Dialect

end PortableSql
