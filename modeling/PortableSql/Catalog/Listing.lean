import PortableSql.Catalog.Folding
import PortableSql.Catalog.TypeRules
import PortableSql.CatalogDefault

namespace PortableSql

/-- The action under the given key, which restricts where there is none. -/
def Row.action (row : Row) (key : String) : ReferentialAction :=
  match row.text? key with
  | some text => .ofCatalog text
  | none => .restrict

def Row.default (row : Row) (key : String) : CatalogDefault := .ofCatalog? (row.text? key)

/-- The column with its nullability, then its default, from a catalog row. -/
def Column.withCatalog (column : Column) (nullable : Bool) (default : CatalogDefault) : Column :=
  default.apply { column with nullable := some nullable }

/-- The column marked as generated where the catalog says so. -/
def Column.markGenerated (column : Column) (generated : Bool) : Column :=
  if generated then { column with autoIncrement := some true } else column

/-- Folds a row of a foreign key listing, given the keys of its six values. -/
def Table.foldKeyRow (t : Table) (row : Row)
    (name column table referenced onUpdate onDelete : String) : Folding :=
  t.withText row name fun name =>
  t.withText row column fun column =>
  t.withText row table fun referencedTable =>
  t.withText row referenced fun referencedColumn =>
    t.foldForeignKey
      { name, column, referencedTable, referencedColumn,
        onUpdate := row.action onUpdate, onDelete := row.action onDelete }

namespace Mysql

def column (name type : String) (row : Row) : Column :=
  let base :=
    if Chars.startsWith "tinyint(1)".toList (Chars.lower (Chars.trim type.toList)) then
      Column.ofType .boolean
    else NativeType.toColumn typeRules true type
  let nullable := (row.text? "IS_NULLABLE").any (sameIgnoringCase · "YES")
  let generated := (row.text? "EXTRA").any fun extra =>
    Chars.includes "auto_increment".toList (Chars.lower extra.toList)
  let full := (base.markGenerated generated).withCatalog nullable (row.default "COLUMN_DEFAULT")
  { full with name, comment := row.filledText? "COLUMN_COMMENT" }

def foldColumn (t : Table) (row : Row) : Folding :=
  t.withText row "COLUMN_NAME" fun name =>
  t.withText row "COLUMN_TYPE" fun type => { table := t.addColumn (column name type row) }

def foldIndex (t : Table) (row : Row) : Folding :=
  t.withText row "INDEX_NAME" fun name =>
  t.withText row "COLUMN_NAME" fun column =>
    if name = "PRIMARY" then
      t.foldConstraint Table.primaryConstraintName .primary column none
    else if row.int? "NON_UNIQUE" = some 0 then t.foldConstraint name .unique column none
    else
      let fulltext := (row.text? "INDEX_TYPE").any (sameIgnoringCase · "FULLTEXT")
      t.foldIndex name (if fulltext then .fulltext else .plain) column (row.uint32? "SUB_PART")

def foldForeignKey (t : Table) (row : Row) : Folding :=
  t.foldKeyRow row "CONSTRAINT_NAME" "COLUMN_NAME" "REFERENCED_TABLE_NAME"
    "REFERENCED_COLUMN_NAME" "UPDATE_RULE" "DELETE_RULE"

end Mysql

namespace Postgresql

def column (name type : String) (row : Row) : Column :=
  let base := NativeType.toColumn typeRules false type
  let full := base.withCatalog (row.isTrue "nullable") (row.default "column_default")
  { full.markGenerated (row.isTrue "is_identity") with
    name, comment := row.filledText? "comment" }

def foldColumn (t : Table) (row : Row) : Folding :=
  t.withText row "name" fun name =>
  t.withText row "type" fun type => { table := t.addColumn (column name type row) }

/-- The pieces of a text after each occurrence of a mark, up to the next. -/
def piecesAfter (mark : List Char) : Nat → List Char → List (List Char)
  | 0, _ => []
  | fuel + 1, text =>
    match Chars.cutFirstMark mark text with
    | none => []
    | some (_, rest) =>
      match Chars.cutFirstMark mark rest with
      | none => [rest]
      | some (piece, _) => piece :: piecesAfter mark fuel rest

/-- The columns of a text search document, each with an empty text in place of null. -/
def documentColumns (expression : String) : List String :=
  if !Chars.includes "to_tsvector".toList expression.toList then []
  else
    let terms := piecesAfter "COALESCE(".toList expression.length expression.toList
    let column (term : List Char) : List Char :=
      Chars.halve '"' (Chars.stripAround '"' (Chars.trim (term.takeWhile (· != ','))))
    (terms.map column).filterMap fun c => if c.isEmpty then none else some (String.ofList c)

/-- Folds the columns of a document into a full-text index. -/
def foldDocument (t : Table) (name : String) : List String → Folding
  | [] => { table := t }
  | column :: columns =>
    (t.foldIndex name .fulltext column none).andThen fun t => foldDocument t name columns

/-- An index over expressions has no column name; only a document of columns is known. -/
def foldIndex (t : Table) (row : Row) : Folding :=
  t.withText row "name" fun name =>
    let gin := row.text? "method" = some "gin"
    match row.text? "column_name" with
    | none =>
      if gin then foldDocument t name (documentColumns ((row.text? "expression").getD ""))
      else { table := t }
    | some column =>
      if row.isTrue "is_primary" then
        t.foldConstraint Table.primaryConstraintName .primary column none
      else if row.isTrue "is_unique" then t.foldConstraint name .unique column none
      else t.foldIndex name (if gin then .fulltext else .plain) column none

def foldForeignKey (t : Table) (row : Row) : Folding :=
  t.foldKeyRow row "name" "column_name" "referenced_table" "referenced_column" "on_update"
    "on_delete"

end Postgresql

namespace Sqlite

def column (name : String) (row : Row) : Column :=
  let base := NativeType.toColumn typeRules true ((row.text? "type").getD "")
  { base.withCatalog (!row.isTrue "notnull") (row.default "dflt_value") with name }

/-- The place in the primary key, counted from one. -/
def keyPlace? (row : Row) : Option Nat :=
  match row.int? "pk" with
  | some n => if 0 < n then some n.toNat else none
  | none => none

def foldColumn (t : Table) (row : Row) : Folding :=
  t.withText row "name" fun name =>
    let added := t.addColumn (column name row)
    match keyPlace? row with
    | some place =>
      added.foldConstraint Table.primaryConstraintName .primary name (some (place - 1))
    | none => { table := added }

/-- The columns of the primary key that are on the table, in the order of their places. -/
def keyColumns (t : Table) (rows : List Row) : List String :=
  let placed := rows.filterMap fun row => do
    let place ← keyPlace? row
    let name ← row.text? "name"
    if t.hasColumn name then some (place, name) else none
  (placed.mergeSort fun a b => a.1 ≤ b.1).map (·.2)

/-- Folds all columns, then puts the columns of a primary key into their order. -/
def foldColumns (t : Table) (rows : List Row) : Folding :=
  (Folding.ofRows foldColumn t rows).andThen fun t =>
    let columns := keyColumns t rows
    if columns.length < 2 then { table := t }
    else
      .ofChange t (Table.addConstraint
        { name := Table.primaryConstraintName, kind := .primary, columns })

/-- The primary key is known from the columns, and an expression has no column. -/
def foldIndex (t : Table) (row : Row) : Folding :=
  if row.text? "origin" = some "pk" then { table := t }
  else
    t.withText row "name" fun name =>
      match row.text? "column_name" with
      | none => { table := t }
      | some column =>
        if row.isTrue "is_unique" then t.foldConstraint name .unique column none
        else t.foldIndex name .plain column none

/-- Foreign keys have no names here. A key is named for its first column and its number; a later
column joins the key with its number. -/
def keyName (t : Table) (row : Row) (column : String) : String :=
  let number := (row.int? "id").getD 0
  let suffix := s!"_{number}_fk"
  let known := t.constraints.find? fun c =>
    c.kind == .foreign && Chars.endsWith suffix.toList c.name.toList
  match known with
  | some c => if 0 < (row.int? "seq").getD 0 then c.name else column ++ suffix
  | none => column ++ suffix

def foldForeignKey (t : Table) (row : Row) : Folding :=
  t.withText row "from" fun column =>
  t.withText row "table" fun referencedTable =>
  t.withText row "to" fun referencedColumn =>
    t.foldForeignKey
      { name := keyName t row column, column, referencedTable, referencedColumn,
        onUpdate := row.action "on_update", onDelete := row.action "on_delete" }

end Sqlite

namespace Sqlserver

/-- The column with the length the catalog keeps apart from the type; minus one is no limit. -/
def withLength (column : Column) (length : Option Int) : Column :=
  match column.type, length with
  | .string, some (-1) => { column with type := .text, fixed := false }
  | .string, some n | .binary, some n =>
    if 0 < n then
      { column with length := if n < 0x100000000 then some (UInt32.ofNat n.toNat) else none }
    else column
  | _, _ => column

def withDigits (column : Column) (row : Row) : Column :=
  if column.type = .decimal then
    { column with
      length := row.uint32? "numeric_precision", precision := row.uint32? "numeric_scale" }
  else column

def column (name type : String) (row : Row) : Column :=
  let base := NativeType.toColumn typeRules false type
  let sized := withDigits (withLength base (row.int? "char_length")) row
  let full := sized.withCatalog (row.isTrue "is_nullable") (row.default "column_default")
  { full.markGenerated (row.isTrue "is_identity") with name }

def foldColumn (t : Table) (row : Row) : Folding :=
  t.withText row "name" fun name =>
  t.withText row "type" fun type => { table := t.addColumn (column name type row) }

def foldIndex (t : Table) (row : Row) : Folding :=
  t.withText row "name" fun name =>
  t.withText row "column_name" fun column =>
    if row.isTrue "is_primary" then
      t.foldConstraint Table.primaryConstraintName .primary column none
    else if row.isTrue "is_unique" then t.foldConstraint name .unique column none
    else t.foldIndex name .plain column none

def foldForeignKey (t : Table) (row : Row) : Folding :=
  t.foldKeyRow row "name" "column_name" "referenced_table" "referenced_column" "on_update"
    "on_delete"

end Sqlserver

namespace Dialect

/-- Folds a row of the product's column listing into a table. -/
def foldColumn : Dialect → Table → Row → Folding
  | mysql => Mysql.foldColumn
  | postgresql => Postgresql.foldColumn
  | sqlite => Sqlite.foldColumn
  | sqlserver => Sqlserver.foldColumn

def foldColumns (d : Dialect) (t : Table) (rows : List Row) : Folding :=
  match d with
  | sqlite => Sqlite.foldColumns t rows
  | _ => Folding.ofRows d.foldColumn t rows

def foldIndex : Dialect → Table → Row → Folding
  | mysql => Mysql.foldIndex
  | postgresql => Postgresql.foldIndex
  | sqlite => Sqlite.foldIndex
  | sqlserver => Sqlserver.foldIndex

def foldForeignKey : Dialect → Table → Row → Folding
  | mysql => Mysql.foldForeignKey
  | postgresql => Postgresql.foldForeignKey
  | sqlite => Sqlite.foldForeignKey
  | sqlserver => Sqlserver.foldForeignKey

end Dialect

end PortableSql
