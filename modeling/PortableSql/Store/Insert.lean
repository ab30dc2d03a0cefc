import PortableSql.Store.Reference

namespace PortableSql.Store

/-- What a statement gives for a column: nothing, or the value at a place. -/
structure Assignment where
  /-- The place of the value for each column of the table. -/
  places : List (Option Nat)
  /-- The place of the number of the row. -/
  number? : Option Nat

def numberNames : List String := ["rowid", "_rowid_", "oid"]

namespace StoredTable

/-- Where the values for the listed columns go. A name that no column has may still be one of the
names for the number of the row. -/
def assign (t : StoredTable) (shown : String) (columns : List String) : Except Fault Assignment := do
  let targets ← columns.mapM fun column =>
    match t.position? column with
    | some position => pure (some position)
    | none =>
      if numberNames.any (sameIgnoringCase column) then pure none
      else throw (Fault.noColumn shown column)
  let place (position : Nat) : Option Nat := targets.findIdx? (· == some position)
  let places := (List.range t.columns.length).map place
  let number? := (t.numberColumn?.bind place) <|> targets.findIdx? (· == none)
  return ⟨places, number?⟩

def assignAll (t : StoredTable) : Assignment :=
  ⟨(List.range t.columns.length).map some, t.numberColumn?⟩

/-- The number of a new row: the given one, or the one after the last. -/
def newNumber (t : StoredTable) (given : Value) : Except Fault Int :=
  match Affinity.numeric.apply given with
  | .int n => .ok n
  | .null =>
    match t.rows.getLast? with
    | none => .ok 1
    | some last => if last.number < 0x7fffffffffffffff then .ok (last.number + 1) else .error .full
  | _ => .error .datatypeMismatch

/-- The row that values make. -/
def newRow (t : StoredTable) (a : Assignment) (values : List Value) : Except Fault StoredRow := do
  let number ← t.newNumber (a.number?.elim .null fun place => values.getD place .null)
  let cell (column : StoredColumn) (place : Option Nat) : Value :=
    let given :=
      match place with
      | some place => values.getD place .null
      | none => (column.default.map (·.value)).getD .null
    (Affinity.ofType column.type).apply given
  let cells := List.zipWith cell t.columns a.places
  let cells :=
    match t.numberColumn? with
    | some position => cells.set position (.int number)
    | none => cells
  return ⟨number, cells⟩

/-- Refuses a null in a column that has none. -/
def checkNulls (t : StoredTable) (r : StoredRow) : Except Fault Unit :=
  match (t.columns.zip r.values).find? fun (c, v) => c.notNull && v == .null with
  | some (c, _) => .error (.notNull t.name c.name)
  | none => .ok ()

/-- Refuses a number that a row has. -/
def checkNumber (t : StoredTable) (r : StoredRow) : Except Fault Unit :=
  if (t.row? r.number).isNone then .ok ()
  else
    match t.numberColumn? with
    | some position => .error (.primaryKey t.name [t.columnName position])
    | none => .error (.rowid t.name)

/-- Refuses a key that a row has. -/
def checkIndex (t : StoredTable) (r : StoredRow) (i : StoredIndex) : Except Fault Unit :=
  let positions := i.columns.filterMap id
  if i.isUnique && t.rows.any fun other => sameKey (other.key positions) (r.key positions) then
    let names := positions.map t.columnName
    .error (if i.origin == .primaryKey then .primaryKey t.name names else .unique t.name names)
  else .ok ()

def insertSorted (r : StoredRow) : List StoredRow → List StoredRow
  | [] => [r]
  | other :: rest =>
    if r.number < other.number then r :: other :: rest else other :: insertSorted r rest

end StoredTable

namespace Data

/-- Adds a row to a table and returns its number. Where keys are enforced, what they refer to must
be known before the values are looked at. -/
def insert (d : Data) (enforcing : Bool) (name : ObjectName) (columns? : Option (List String))
    (values : List Value) : Except Fault (Int × Data) := do
  let (s, t) ← d.find name
  let assignment ←
    match columns? with
    | none =>
      if values.length != t.columns.length then
        throw (.rowWidth name.shown t.columns.length values.length)
      pure t.assignAll
    | some columns =>
      let assignment ← t.assign name.shown columns
      if values.length != columns.length then throw (.valueCount values.length columns.length)
      pure assignment
  let keys := if enforcing then t.foreignKeys else []
  discard (keys.mapM fun k => k.resolve d s t)
  let row ← t.newRow assignment values
  t.checkNulls row
  t.checkNumber row
  discard (t.indexes.mapM (t.checkIndex row))
  let t := { t with rows := StoredTable.insertSorted row t.rows }
  let d := d.put s t
  let references ← keys.mapM fun k => k.resolve d s t
  if references.any (·.isBroken row) then throw .foreignKey
  return (row.number, d)

end Data

end PortableSql.Store
