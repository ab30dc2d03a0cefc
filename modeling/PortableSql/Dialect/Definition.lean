import PortableSql.Dialect.Quoting
import PortableSql.Table.Basic

namespace PortableSql.Dialect

/-- A type name with one argument, if it has one. -/
def sized (name : String) : Option UInt32 → String
  | some n => s!"{name}({n})"
  | none => name

def floatTypeSql (column : Column) : String := sized "FLOAT" column.precision

/-- A decimal with a length has a scale too, zero unless another is set. -/
def decimalTypeSql (column : Column) : String :=
  match column.length, column.precision with
  | none, _ => "DECIMAL"
  | some length, none => s!"DECIMAL({length},0)"
  | some length, some scale => s!"DECIMAL({length},{scale})"

/-- The smallest of four text types that holds the length. -/
def mysqlTextType : Option UInt32 → String
  | none => "TEXT"
  | some n =>
    if n ≤ 255 then "TINYTEXT"
    else if n ≤ 65535 then "TEXT"
    else if n ≤ 16777215 then "MEDIUMTEXT"
    else "LONGTEXT"

/-- The smallest of four binary types that holds the length. -/
def mysqlBlobType : Option UInt32 → String
  | none => "LONGBLOB"
  | some n =>
    if n ≤ 255 then "TINYBLOB"
    else if n ≤ 65535 then "BLOB"
    else if n ≤ 16777215 then "MEDIUMBLOB"
    else "LONGBLOB"

def mysqlBaseType (column : Column) : String :=
  match column.type with
  | .string => sized (if column.fixed then "CHAR" else "VARCHAR") (column.length.getD 255)
  | .text => mysqlTextType column.length
  | .uuid => "CHAR(36)"
  | .integer => "INTEGER"
  | .bigInteger => "BIGINT"
  | .float => floatTypeSql column
  | .decimal => decimalTypeSql column
  | .boolean => "BOOLEAN"
  | .date => "DATE"
  | .time => "TIME"
  | .dateTime => "DATETIME"
  | .timestamp => "TIMESTAMP"
  | .binary =>
    match column.length, column.fixed with
    | some n, true => sized "BINARY" n
    | length, _ => mysqlBlobType length
  | .json => "JSON"

def mysqlType (column : Column) : String :=
  if column.unsigned && column.type.isNumeric then mysqlBaseType column ++ " UNSIGNED"
  else mysqlBaseType column

def postgresqlType (column : Column) : String :=
  match column.type with
  | .string =>
    if column.fixed then
      if column.length = some 36 then "UUID" else sized "CHAR" column.length
    else sized "VARCHAR" column.length
  | .text => "TEXT"
  | .uuid => "UUID"
  | .integer => "INTEGER"
  | .bigInteger => "BIGINT"
  | .float => floatTypeSql column
  | .decimal => decimalTypeSql column
  | .boolean => "BOOLEAN"
  | .date => "DATE"
  | .time => "TIME"
  | .dateTime | .timestamp => "TIMESTAMP"
  | .binary => "BYTEA"
  | .json => "JSONB"

def sqliteType (column : Column) : String :=
  match column.type with
  | .string => sized (if column.fixed then "CHAR" else "VARCHAR") column.length
  | .text | .json => "TEXT"
  | .uuid => "CHAR(36)"
  | .integer => if column.unsigned then "UNSIGNED INTEGER" else "INTEGER"
  | .bigInteger => "BIGINT"
  | .float => floatTypeSql column
  | .decimal => decimalTypeSql column
  | .boolean => "BOOLEAN"
  | .date => "DATE"
  | .time => "TIME"
  | .dateTime => "DATETIME"
  | .timestamp => "TIMESTAMP"
  | .binary => "BLOB"

def sqlserverType (column : Column) : String :=
  match column.type with
  | .string =>
    if column.fixed then
      if column.length = some 36 then "UNIQUEIDENTIFIER"
      else sized "NCHAR" (column.length.getD 255)
    else sized "NVARCHAR" (column.length.getD 255)
  | .text | .json => "NVARCHAR(MAX)"
  | .uuid => "UNIQUEIDENTIFIER"
  | .integer => "INTEGER"
  | .bigInteger => "BIGINT"
  | .float => floatTypeSql column
  | .decimal => decimalTypeSql column
  | .boolean => "BIT"
  | .date => "DATE"
  | .time => "TIME"
  | .dateTime | .timestamp => "DATETIME2"
  | .binary =>
    match column.length with
    | some n => sized "VARBINARY" n
    | none => "VARBINARY(MAX)"

/-- The native type of a column, with its length, precision and sign. -/
def columnType : Dialect → Column → String
  | mysql => mysqlType
  | postgresql => postgresqlType
  | sqlite => sqliteType
  | sqlserver => sqlserverType

/-- The type that replaces that of a generated column, where the product has one. -/
def serialType? (d : Dialect) (column : Column) : Option String :=
  match d, column.type with
  | postgresql, .integer => some "SERIAL"
  | postgresql, .bigInteger => some "BIGSERIAL"
  | sqlserver, .integer => some "INTEGER IDENTITY(1, 1)"
  | sqlserver, .bigInteger => some "BIGINT IDENTITY(1, 1)"
  | _, _ => none

/-- The attributes after the default. -/
def columnModifiers (d : Dialect) (t : Table) (column : Column) : List String :=
  match d with
  | mysql =>
    (if t.isSerial column then ["AUTO_INCREMENT"] else []) ++
      (column.filledComment?.map fun text => s!"COMMENT {quoteString text}").toList
  | _ => []

def defaultClause (d : Dialect) (column : Column) : String :=
  match column.defaultValue? with
  | some value => " DEFAULT " ++ d.quote value (some column.type)
  | none => if column.nullable = some true then " DEFAULT NULL" else ""

def columnSql (d : Dialect) (t : Table) (column : Column) : String :=
  let name := d.quoteIdentifier column.name
  let plain :=
    name ++ " " ++ d.columnType column ++
      (if column.nullable = some false then " NOT NULL" else "") ++
      d.defaultClause column ++
      String.join ((d.columnModifiers t column).map (" " ++ ·))
  if t.isSerial column then
    match d.serialType? column with
    | some serial => name ++ " " ++ serial
    | none => plain
  else plain

def actionSql (d : Dialect) (action : ReferentialAction) : String :=
  match d, action with
  | sqlserver, .restrict => ReferentialAction.noAction.sql
  | _, action => action.sql

def uniqueSql (d : Dialect) (c : Constraint) : String :=
  let columns := d.quoteIdentifiers c.columns
  match d with
  | mysql => s!"UNIQUE KEY {d.quoteIdentifier c.name} ({columns})"
  | _ => s!"CONSTRAINT {d.quoteIdentifier c.name} UNIQUE ({columns})"

def constraintSql (d : Dialect) (c : Constraint) : String :=
  let columns := d.quoteIdentifiers c.columns
  match c.kind with
  | .primary => s!"PRIMARY KEY ({columns})"
  | .unique => d.uniqueSql c
  | .foreign =>
    let referenced := d.quoteIdentifier (c.referencedTable?.getD "")
    s!"CONSTRAINT {d.quoteIdentifier c.name} FOREIGN KEY ({columns}) REFERENCES " ++
      s!"{referenced} ({d.quoteIdentifiers c.referencedColumns}) " ++
      s!"ON UPDATE {d.actionSql c.onUpdate} ON DELETE {d.actionSql c.onDelete}"

/-- Whether indexes are declared inside the table. -/
def inlineIndexes : Dialect → Bool
  | mysql => true
  | _ => false

def indexColumn (d : Dialect) (i : Index) (column : String) : String :=
  match i.lengths.find? column with
  | some n => s!"{d.quoteIdentifier column}({n})"
  | none => d.quoteIdentifier column

/-- The clause or statement for an index. A product without full-text indexes has a plain one. -/
def indexSql (d : Dialect) (t : Table) (i : Index) : String :=
  let name := d.quoteIdentifier i.name
  let table := d.quoteIdentifier t.name
  match d, i.kind with
  | mysql, kind =>
    let keyword := match kind with
      | .plain => "KEY"
      | .fulltext => "FULLTEXT KEY"
    s!"{keyword} {name} ({commaSeparated (i.columns.map (d.indexColumn i))})"
  | postgresql, .fulltext =>
    let terms := i.columns.map fun c => s!"COALESCE({d.quoteIdentifier c}, '')"
    s!"CREATE INDEX {name} ON {table} USING gin(to_tsvector('english', " ++
      String.intercalate " || ' ' || " terms ++ "))"
  | _, _ => s!"CREATE INDEX {name} ON {table} ({d.quoteIdentifiers i.columns})"

/-- What follows the closing parenthesis of a table. -/
def tableOptions (d : Dialect) (t : Table) : String :=
  match d with
  | mysql =>
    let clause (name : String) : Option String → String
      | some value => s!" {name}={value}"
      | none => ""
    clause "ENGINE" (t.options.find? "engine") ++
      clause "DEFAULT CHARSET" (t.options.find? "charset") ++
      clause "COLLATE" ((t.options.find? "collation").or (t.options.find? "collate"))
  | _ => ""

/-- The statement that attaches a column's comment, where comments are apart from the table. -/
def commentSql? (d : Dialect) (t : Table) (column : Column) : Option String :=
  match d, column.comment with
  | postgresql, some text =>
    some (s!"COMMENT ON COLUMN {d.quoteIdentifier t.name}.{d.quoteIdentifier column.name} " ++
      s!"IS {quoteString text}")
  | sqlserver, some text =>
    some (s!"EXEC sp_addextendedproperty N'MS_Description', N{quoteString text}, " ++
      s!"N'SCHEMA', N'dbo', N'TABLE', N{quoteString t.name}, " ++
      s!"N'COLUMN', N{quoteString column.name}")
  | _, _ => none

def createKeyword (d : Dialect) (t : Table) : String :=
  match d with
  | sqlserver => "CREATE TABLE"
  | _ => if t.temporary then "CREATE TEMPORARY TABLE" else "CREATE TABLE"

/-- The table's name in quotes; temporary tables of SQL Server begin with a hash. -/
def tableName (d : Dialect) (t : Table) : String :=
  match d with
  | sqlserver => d.quoteIdentifier (if t.temporary then "#" ++ t.name else t.name)
  | _ => d.quoteIdentifier t.name

/-- What stands between the parentheses of a table. -/
def tableParts (d : Dialect) (t : Table) : List String :=
  t.columns.map (d.columnSql t) ++ t.constraints.map d.constraintSql ++
    (if d.inlineIndexes then t.indexes.map (d.indexSql t) else [])

/-- The statements that create a table: the table, then what the dialect keeps apart from it. -/
def createTable (d : Dialect) (t : Table) : List String :=
  let table :=
    d.createKeyword t ++ " " ++ d.tableName t ++ " (\n    " ++
      String.intercalate ",\n    " (d.tableParts t) ++ "\n)" ++ d.tableOptions t
  table :: (if d.inlineIndexes then [] else t.indexes.map (d.indexSql t)) ++
    (t.columns.filter (·.filledComment?.isSome)).filterMap (d.commentSql? t)

def dropTable (d : Dialect) (t : Table) : String :=
  match d with
  | postgresql => s!"DROP TABLE {d.tableName t} CASCADE"
  | _ => s!"DROP TABLE {d.tableName t}"

def truncateTable (d : Dialect) (t : Table) : String :=
  match d with
  | postgresql =>
    if t.primaryKey?.isSome then s!"TRUNCATE TABLE {d.tableName t} RESTART IDENTITY CASCADE"
    else s!"TRUNCATE TABLE {d.tableName t} CASCADE"
  | sqlite => s!"DELETE FROM {d.tableName t}"
  | _ => s!"TRUNCATE TABLE {d.tableName t}"

end PortableSql.Dialect
