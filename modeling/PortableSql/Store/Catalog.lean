import PortableSql.Catalog.Query
import PortableSql.Row
import PortableSql.Store.Data
import PortableSql.Store.Reading

namespace PortableSql.Store

/-- A row of a result: names, declared types and values. -/
abbrev ResultRow := List (String × String × Value)

def ResultRow.read (r : ResultRow) : Row :=
  r.map fun (name, declared, v) => (name, v.read declared)

namespace StoredTable

def ofBool (b : Bool) : Value := .int (if b then 1 else 0)

def ofNat (n : Nat) : Value := .int (Int.ofNat n)

/-- The place of a column in the primary key, counted from one, or zero. -/
def keyPlace (t : StoredTable) (position : Nat) : Nat :=
  (((t.primaryKey?.getD []).findIdx? (· == position)).map (· + 1)).getD 0

def columnRows (t : StoredTable) : List ResultRow :=
  t.columns.mapIdx fun position c =>
    [("name", "", .ofText c.name), ("type", "", .ofText c.type), ("notnull", "", ofBool c.notNull),
     ("dflt_value", "", (c.default.map fun d => Value.ofText d.text).getD .null),
     ("pk", "", ofNat (t.keyPlace position))]

def originLetters : IndexOrigin → String
  | .statement => "c"
  | .unique => "u"
  | .primaryKey => "pk"

def indexRows (t : StoredTable) : List ResultRow :=
  t.indexes.flatMap fun i => i.columns.map fun column =>
    [("name", "", .ofText i.name), ("is_unique", "", ofBool i.isUnique),
     ("origin", "", .ofText (originLetters i.origin)),
     ("column_name", "", (column.map fun p => Value.ofText (t.columnName p)).getD .null)]

def foreignKeyRows (t : StoredTable) : List ResultRow :=
  (t.foreignKeys.mapIdx fun id k =>
    (k.columns.zip k.targetColumns).mapIdx fun seq (column, target) =>
      [("id", "", ofNat id), ("seq", "", ofNat seq), ("table", "", .ofText k.target),
       ("from", "", .ofText (t.columnName column)), ("to", "", .ofText target),
       ("on_update", "", .ofText k.onUpdate.sql),
       ("on_delete", "", .ofText k.onDelete.sql)]).flatten

end StoredTable

/-- The queries of the catalog about one table, by their texts. -/
def catalogQueries : List (String × (StoredTable → List ResultRow)) :=
  [(Sqlite.columnsSql, StoredTable.columnRows), (Sqlite.indexesSql, StoredTable.indexRows),
   (Sqlite.foreignKeysSql, StoredTable.foreignKeyRows)]

namespace Data

/-- Asks about a table of a schema; one that is not there has no rows. -/
def ask (d : Data) (rows : StoredTable → List ResultRow) (table schema : String) :
    Except Fault (List ResultRow) :=
  match Schema.ofName? schema with
  | some s => .ok (((d.table? s table).map rows).getD [])
  | none =>
    .error (.unknownDatabase (String.ofList ('\'' :: Chars.double '\'' schema.toList ++ ['\''])))

/-- Whether a table is listed: names that start like those of the catalog are not. -/
def isListed (name : String) : Bool :=
  let lower := Chars.asciiLower name.toList
  !(Chars.startsWith "sqlite".toList lower && 6 < lower.length)

/-- The names of the tables of a schema in the order of their characters. -/
def tableRows (d : Data) (schema : Token) : Except Fault (List ResultRow) :=
  match Schema.ofName? schema.name with
  | some s =>
    let names := ((d.tables s).map (·.name)).filter isListed
    .ok ((names.mergeSort (fun a b => !(b < a))).map fun name => [("name", "text", .ofText name)])
  | none => .error (.noTable s!"{schema.name}.sqlite_master")

def allRows (t : StoredTable) : List ResultRow :=
  t.rows.map fun r => (t.columns.zip r.values).map fun (c, v) => (c.name, c.type, v)

end Data

end PortableSql.Store
