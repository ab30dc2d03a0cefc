import PortableSql.Json.Record
import PortableSql.Table.Basic

namespace PortableSql

open Json

namespace Column

def fieldNames : List String :=
  ["name", "type", "length", "precision", "nullable", "default", "fixed", "comment", "unsigned",
   "auto_increment"]

/-- The JSON form of a column, without the attributes that are not set. -/
def toJson (c : Column) : Json :=
  ofPresent
    [("name", some (.str c.name)), ("type", some (.str c.type.name)),
     ("length", c.length.map ofUInt32), ("precision", c.precision.map ofUInt32),
     ("nullable", c.nullable.map .bool), ("default", c.default), ("fixed", some (.bool c.fixed)),
     ("comment", c.comment.map .str), ("unsigned", some (.bool c.unsigned)),
     ("auto_increment", c.autoIncrement.map .bool)]

def ofJson? (value : Json) : Option Column := do
  let fields ← record? fieldNames 2 value
  let name ← required readString "name" fields
  let type ← required (readName ColumnType.ofName?) "type" fields
  let length ← optional readUInt32 "length" fields
  let precision ← optional readUInt32 "precision" fields
  let nullable ← optional readBool "nullable" fields
  let default ← optional readAny "default" fields
  let fixed ← defaulted readBool false "fixed" fields
  let comment ← optional readString "comment" fields
  let unsigned ← defaulted readBool false "unsigned" fields
  let autoIncrement ← optional readBool "auto_increment" fields
  return { name, type, length, precision, nullable, default, fixed, comment, unsigned,
           autoIncrement }

end Column

namespace Index

def toJson (i : Index) : Json :=
  ofPresent
    [("name", some (.str i.name)), ("kind", some (.str i.kind.name)),
     ("columns", some (.strings i.columns)),
     ("lengths", if i.lengths.isEmpty then none
       else some (.obj (i.lengths.map fun (column, n) => (column, ofUInt32 n))))]

def ofJson? (value : Json) : Option Index := do
  let fields ← record? ["name", "kind", "columns", "lengths"] 3 value
  let name ← required readString "name" fields
  let kind ← required (readName IndexKind.ofName?) "kind" fields
  let columns ← required (readList readString) "columns" fields
  let lengths ← defaulted (readMap readUInt32) [] "lengths" fields
  return { name, kind, columns, lengths }

end Index

namespace Constraint

def toJson (c : Constraint) : Json :=
  ofPresent
    [("name", some (.str c.name)), ("kind", some (.str c.kind.name)),
     ("columns", some (.strings c.columns)),
     ("references", if c.references.isEmpty then none else some (.strings c.references)),
     ("on_update", some (.str c.onUpdate.name)), ("on_delete", some (.str c.onDelete.name))]

def ofJson? (value : Json) : Option Constraint := do
  let fields ←
    record? ["name", "kind", "columns", "references", "on_update", "on_delete"] 3 value
  let name ← required readString "name" fields
  let kind ← required (readName ConstraintKind.ofName?) "kind" fields
  let columns ← required (readList readString) "columns" fields
  let references ← defaulted (readList readString) [] "references" fields
  let onUpdate ← defaulted (readName ReferentialAction.ofName?) .restrict "on_update" fields
  let onDelete ← defaulted (readName ReferentialAction.ofName?) .restrict "on_delete" fields
  return { name, kind, columns, references, onUpdate, onDelete }

end Constraint

namespace Table

def optionsJson (options : SortedMap String) : Json :=
  .obj (options.map fun (key, value) => (key, .str value))

def toJson (t : Table) : Json :=
  ofPresent
    [("name", some (.str t.name)), ("columns", some (.arr (t.columns.map Column.toJson))),
     ("indexes", some (.arr (t.indexes.map Index.toJson))),
     ("constraints", some (.arr (t.constraints.map Constraint.toJson))),
     ("options", if t.options.isEmpty then none else some (optionsJson t.options)),
     ("temporary", some (.bool t.temporary))]

/-- Reads the JSON form; the parts are not checked against each other. -/
def ofJson? (value : Json) : Option Table := do
  let fields ←
    record? ["name", "columns", "indexes", "constraints", "options", "temporary"] 2 value
  let name ← required readString "name" fields
  let columns ← required (readList Column.ofJson?) "columns" fields
  let indexes ← defaulted (readList Index.ofJson?) [] "indexes" fields
  let constraints ← defaulted (readList Constraint.ofJson?) [] "constraints" fields
  let options ← defaulted (readMap readString) [] "options" fields
  let temporary ← defaulted readBool false "temporary" fields
  return { name, columns, indexes, constraints, options, temporary }

end Table

end PortableSql
