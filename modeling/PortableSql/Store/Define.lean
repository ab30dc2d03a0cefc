import PortableSql.Store.Data

namespace PortableSql.Store

namespace StoredTable

def addColumn (t : StoredTable) (c : StoredColumn) : Except Fault StoredTable :=
  if (t.position? c.name).isSome then .error (.duplicateColumn c.name)
  else .ok { t with columns := t.columns ++ [c] }

/-- The positions of the columns of a key. -/
def keyPositions (t : StoredTable) (columns : List String) : Except Fault (List Nat) :=
  columns.mapM fun column =>
    match t.position? column with
    | some position => .ok position
    | none => .error .expressionInKey

/-- Adds the index that a key needs, unless there is one already, which then takes over its
meaning. -/
def addKeyIndex (t : StoredTable) (positions : List Nat) (origin : IndexOrigin) : StoredTable :=
  let columns := positions.map some
  if t.indexes.any (·.columns == columns) then
    let meant (i : StoredIndex) : StoredIndex :=
      if i.columns == columns && origin == .primaryKey then { i with origin } else i
    { t with indexes := t.indexes.map meant }
  else
    let name := s!"sqlite_autoindex_{t.name}_{t.indexes.length + 1}"
    { t with indexes := { name, columns, isUnique := true, origin } :: t.indexes }

/-- A key of one column that is declared an integer is the number of the row. -/
def addPrimaryKey (t : StoredTable) (columns : List String) : Except Fault StoredTable := do
  if t.primaryKey?.isSome then throw (.secondPrimaryKey t.name)
  let positions ← t.keyPositions columns
  let t := { t with primaryKey? := some positions }
  match positions with
  | [position] =>
    if t.columns[position]?.any fun c => sameIgnoringCase c.type "INTEGER" then
      return { t with numberColumn? := some position }
    else return t.addKeyIndex positions .primaryKey
  | _ => return t.addKeyIndex positions .primaryKey

def addForeignKey (t : StoredTable) (columns : List String) (target : String)
    (targetColumns : List String) (onUpdate onDelete : ReferentialAction) :
    Except Fault StoredTable := do
  if columns.length != targetColumns.length then throw .referenceWidth
  let positions ← columns.mapM fun column =>
    match t.position? column with
    | some position => pure position
    | none => throw (Fault.unknownReferenceColumn column)
  return { t with
    foreignKeys := ⟨positions, target, targetColumns, onUpdate, onDelete⟩ :: t.foreignKeys }

def add (t : StoredTable) : TableItem → Except Fault StoredTable
  | .column c => t.addColumn c
  | .primary columns => t.addPrimaryKey columns
  | .unique columns => return t.addKeyIndex (← t.keyPositions columns) .unique
  | .foreign columns target targetColumns onUpdate onDelete =>
    t.addForeignKey columns target targetColumns onUpdate onDelete

end StoredTable

namespace Data

/-- The schema of a new table. -/
def schemaFor (text : TableText) : Except Fault Schema := do
  match text.name.schema? with
  | none => return if text.temporary then .temp else .main
  | some token =>
    let s ← Schema.ofToken token
    if text.temporary && s != .temp then throw .unqualifiedTemporary
    return s

/-- Adds a table. The name is looked at first, then the items in order, and what follows them
last. -/
def createTable (d : Data) (text : TableText) : Except Fault Data := do
  let s ← schemaFor text
  let name := text.name.base.name
  if isReservedName name then throw (.reservedName name)
  if (d.table? s name).isSome then throw (.tableExists (String.ofList text.name.base.text))
  if d.hasIndex s name then throw (.nameOfIndex name)
  let t ← text.items.foldlM StoredTable.add { name }
  match text.fault? with
  | some f => throw f
  | none => return d.withTables s (d.tables s ++ [t])

/-- The table of a new index, in the schema that the index names or else where the table is. -/
def indexedTable (d : Data) (index : ObjectName) (table : Token) :
    Except Fault (Schema × StoredTable) := do
  let s ←
    match index.schema? with
    | some token => Schema.ofToken token
    | none => pure (if (d.table? .temp table.name).isSome then .temp else .main)
  match d.table? s table.name with
  | some t => return (s, t)
  | none => throw (.noTable s!"{s.name}.{table.name}")

def createIndex (d : Data) (isUnique : Bool) (index : ObjectName) (table : Token)
    (columns : List String) : Except Fault Data := do
  let (s, t) ← d.indexedTable index table
  let name := index.base.name
  if isReservedName name then throw (.reservedName name)
  if (d.table? s name).isSome then throw (.nameOfTable name)
  if d.hasIndex s name then throw (.indexExists name)
  let i : StoredIndex := { name, columns := columns.map t.position?, isUnique, origin := .statement }
  return d.put s { t with indexes := i :: t.indexes }

end Data

end PortableSql.Store
