import PortableSql.Event
import PortableSql.Row
import PortableSql.Table.Edit

namespace PortableSql

/-- What became of a table into which catalog rows were folded. A row that fails may have changed
the table. -/
structure Folding where
  table : Table
  events : List Event := []
  error? : Option Error := none

namespace Folding

def failed (t : Table) (error : Error) : Folding := { table := t, error? := some error }

/-- What a change makes of a table, with the error of one that is refused. -/
def ofChange (t : Table) (change : Table.Mutation Unit) : Folding :=
  match change.runOn t with
  | (.ok (), changed) => { table := changed }
  | (.error fault, left) => failed left (left.refusal fault)

/-- Goes on with the table unless there was an error. -/
def andThen (f : Folding) (next : Table → Folding) : Folding :=
  match f.error? with
  | some _ => f
  | none =>
    let g := next f.table
    { g with events := f.events ++ g.events }

/-- Folds rows one after the other, up to the first error. -/
def ofRows (step : Table → Row → Folding) (t : Table) : List Row → Folding
  | [] => { table := t }
  | row :: rows => (step t row).andThen fun t => ofRows step t rows

end Folding

namespace Table

/-- The named constraint of introspected primary keys. -/
def primaryConstraintName : String := "primary"

/-- The error for a catalog row without a value that its reader needs. -/
def missingValue (t : Table) (key : String) : Error :=
  .introspection s!"catalog row has no value for '{key}'" t.name none

/-- Goes on with the named text of the row. -/
def withText (t : Table) (row : Row) (key : String) (next : String → Folding) : Folding :=
  match row.text? key with
  | some text => next text
  | none => .failed t (t.missingValue key)

/-- Appends a column, with the indexed length if there is one, to the named index. -/
def foldIndex (t : Table) (name : String) (kind : IndexKind) (column : String)
    (length : Option UInt32) : Folding :=
  if !t.hasColumn column then { table := t, events := [.skippedIndexColumn name column] }
  else
    let index := (t.index? name).getD { name, kind, columns := [] }
    let columns :=
      if index.columns.contains column then index.columns else index.columns ++ [column]
    let lengths :=
      match length with
      | some n => index.lengths.insert column n
      | none => index.lengths
    .ofChange t (addIndex { index with columns, lengths })

/-- Puts a column at the given place, or at the end, of the named key. -/
def foldConstraint (t : Table) (name : String) (kind : ConstraintKind) (column : String)
    (place : Option Nat) : Folding :=
  if !t.hasColumn column then { table := t, events := [.skippedConstraintColumn name column] }
  else
    let constraint := (t.constraint? name).getD { name, kind, columns := [] }
    let count := constraint.columns.length
    let columns :=
      if constraint.columns.contains column then constraint.columns
      else constraint.columns.insertIdx (min (place.getD count) count) column
    .ofChange t (addConstraint { constraint with columns })

end Table

/-- One row of a foreign key listing. -/
structure ForeignKeyPart where
  name : String
  column : String
  referencedTable : String
  referencedColumn : String
  onUpdate : ReferentialAction
  onDelete : ReferentialAction

namespace Table

/-- Appends a column and the column it refers to to the named foreign key. -/
def foldForeignKey (t : Table) (part : ForeignKeyPart) : Folding :=
  if !t.hasColumn part.column then
    { table := t, events := [.skippedForeignKeyColumn part.name part.column] }
  else
    let fresh : Constraint :=
      { name := part.name, kind := .foreign, columns := [part.column],
        references := [part.referencedTable, part.referencedColumn],
        onUpdate := part.onUpdate, onDelete := part.onDelete }
    let constraint :=
      match t.constraint? part.name with
      | some known =>
        if known.kind = .foreign then
          { known with
            columns := known.columns ++ [part.column]
            references := known.references ++ [part.referencedColumn] }
        else fresh
      | none => fresh
    .ofChange t (addConstraint constraint)

end Table

end PortableSql
