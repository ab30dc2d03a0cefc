import PortableSql.Dialect
import PortableSql.NativeType

namespace PortableSql

namespace TypeRule

def plain (type : ColumnType) (name : String) : TypeRule := { name, type }

/-- A type whose values all have the same width. -/
def fixedWidth (type : ColumnType) (name : String) : TypeRule := { name, type, fixed := true }

def sized (type : ColumnType) (name : String) (length : UInt32) : TypeRule :=
  { name, type, impliedLength := some length }

end TypeRule

open TypeRule

def Mysql.typeRules : List TypeRule :=
  [plain .string "varchar", fixedWidth .string "char", plain .string "enum", plain .string "set",
   sized .text "tinytext" 255, plain .text "text", sized .text "mediumtext" 16777215,
   sized .text "longtext" 4294967295, plain .integer "tinyint", plain .integer "smallint",
   plain .integer "mediumint", plain .integer "int", plain .integer "integer",
   plain .integer "year", plain .bigInteger "bigint", plain .float "float", plain .float "double",
   plain .float "double precision", plain .float "real", plain .decimal "decimal",
   plain .decimal "numeric", plain .boolean "bool", plain .boolean "boolean",
   plain .boolean "bit", plain .date "date", plain .time "time", plain .dateTime "datetime",
   plain .timestamp "timestamp", fixedWidth .binary "binary", plain .binary "varbinary",
   sized .binary "tinyblob" 255, sized .binary "blob" 65535, sized .binary "mediumblob" 16777215,
   plain .binary "longblob", plain .json "json"]

def Postgresql.typeRules : List TypeRule :=
  [plain .string "character varying", plain .string "varchar", fixedWidth .string "character",
   fixedWidth .string "char", fixedWidth .string "bpchar", plain .text "text",
   plain .text "citext", plain .uuid "uuid", plain .integer "smallint", plain .integer "integer",
   plain .integer "int", plain .integer "int2", plain .integer "int4", plain .integer "serial",
   plain .bigInteger "bigint", plain .bigInteger "int8", plain .bigInteger "bigserial",
   plain .float "real", plain .float "double precision", plain .float "float4",
   plain .float "float8", plain .decimal "numeric", plain .decimal "decimal",
   plain .decimal "money", plain .boolean "boolean", plain .boolean "bool", plain .date "date",
   plain .time "time", plain .time "time without time zone", plain .time "time with time zone",
   plain .timestamp "timestamp", plain .timestamp "timestamp without time zone",
   plain .timestamp "timestamp with time zone", plain .timestamp "timestamptz",
   plain .binary "bytea", plain .json "json", plain .json "jsonb"]

def Sqlite.typeRules : List TypeRule :=
  [plain .string "varchar", plain .string "character varying", plain .string "nvarchar",
   plain .string "varying character", fixedWidth .string "char", fixedWidth .string "character",
   fixedWidth .string "nchar", plain .text "text", plain .text "clob", plain .uuid "uuid",
   plain .integer "integer", plain .integer "int", plain .integer "tinyint",
   plain .integer "smallint", plain .integer "mediumint", plain .bigInteger "bigint",
   plain .bigInteger "big int", plain .bigInteger "int8", plain .float "real",
   plain .float "double", plain .float "double precision", plain .float "float",
   plain .decimal "numeric", plain .decimal "decimal", plain .boolean "boolean",
   plain .boolean "bool", plain .date "date", plain .time "time", plain .dateTime "datetime",
   plain .timestamp "timestamp", plain .binary "blob", plain .json "json"]

def Sqlserver.typeRules : List TypeRule :=
  [plain .string "nvarchar", plain .string "varchar", fixedWidth .string "nchar",
   fixedWidth .string "char", plain .text "ntext", plain .text "text", plain .text "xml",
   plain .uuid "uniqueidentifier", plain .integer "tinyint", plain .integer "smallint",
   plain .integer "int", plain .bigInteger "bigint", plain .float "real", plain .float "float",
   plain .decimal "decimal", plain .decimal "numeric", plain .decimal "money",
   plain .decimal "smallmoney", plain .boolean "bit", plain .date "date", plain .time "time",
   plain .dateTime "datetime", plain .dateTime "datetime2", plain .dateTime "smalldatetime",
   plain .timestamp "datetimeoffset", plain .binary "binary", plain .binary "varbinary",
   plain .binary "image"]

/-- The native types that a product's catalog names. -/
def Dialect.typeRules : Dialect → List TypeRule
  | mysql => Mysql.typeRules
  | postgresql => Postgresql.typeRules
  | sqlite => Sqlite.typeRules
  | sqlserver => Sqlserver.typeRules

end PortableSql
