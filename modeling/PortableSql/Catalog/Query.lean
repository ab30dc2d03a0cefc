import PortableSql.Dialect.Quoting
import PortableSql.Param

namespace PortableSql

/-- A query to a product's catalog, with the parameters bound to it. -/
structure CatalogQuery where
  sql : String
  params : List Param

namespace Mysql

def tablesSql : String := "
        SELECT CONVERT(TABLE_NAME USING utf8) AS TABLE_NAME
        FROM information_schema.TABLES
        WHERE TABLE_SCHEMA = COALESCE(?, DATABASE())
        AND TABLE_TYPE IN ('BASE TABLE', 'VIEW')
        ORDER BY TABLE_NAME
        "

def columnsSql : String := "
        SELECT
            CONVERT(COLUMN_NAME USING utf8) AS COLUMN_NAME,
            CONVERT(COLUMN_TYPE USING utf8) AS COLUMN_TYPE,
            CONVERT(IS_NULLABLE USING utf8) AS IS_NULLABLE,
            CONVERT(COLUMN_DEFAULT USING utf8) AS COLUMN_DEFAULT,
            CONVERT(EXTRA USING utf8) AS EXTRA,
            CONVERT(COLUMN_COMMENT USING utf8) AS COLUMN_COMMENT
        FROM information_schema.COLUMNS
        WHERE TABLE_NAME = ? AND TABLE_SCHEMA = COALESCE(?, DATABASE())
        ORDER BY ORDINAL_POSITION
        "

def indexesSql : String := "
        SELECT
            CONVERT(INDEX_NAME USING utf8) AS INDEX_NAME,
            CONVERT(COLUMN_NAME USING utf8) AS COLUMN_NAME,
            NON_UNIQUE,
            SUB_PART,
            CONVERT(INDEX_TYPE USING utf8) AS INDEX_TYPE
        FROM information_schema.STATISTICS
        WHERE TABLE_NAME = ? AND TABLE_SCHEMA = COALESCE(?, DATABASE())
        ORDER BY INDEX_NAME, SEQ_IN_INDEX
        "

def foreignKeysSql : String := "
        SELECT
            CONVERT(k.CONSTRAINT_NAME USING utf8) AS CONSTRAINT_NAME,
            CONVERT(k.COLUMN_NAME USING utf8) AS COLUMN_NAME,
            CONVERT(k.REFERENCED_TABLE_NAME USING utf8) AS REFERENCED_TABLE_NAME,
            CONVERT(k.REFERENCED_COLUMN_NAME USING utf8) AS REFERENCED_COLUMN_NAME,
            CONVERT(r.UPDATE_RULE USING utf8) AS UPDATE_RULE,
            CONVERT(r.DELETE_RULE USING utf8) AS DELETE_RULE
        FROM information_schema.KEY_COLUMN_USAGE k
        JOIN information_schema.REFERENTIAL_CONSTRAINTS r
            ON r.CONSTRAINT_SCHEMA = k.CONSTRAINT_SCHEMA
            AND r.CONSTRAINT_NAME = k.CONSTRAINT_NAME
            AND r.TABLE_NAME = k.TABLE_NAME
        WHERE k.TABLE_NAME = ?
        AND k.TABLE_SCHEMA = COALESCE(?, DATABASE())
        AND k.REFERENCED_TABLE_NAME IS NOT NULL
        ORDER BY k.CONSTRAINT_NAME, k.ORDINAL_POSITION
        "

end Mysql

namespace Postgresql

def tablesSql : String := "
        SELECT table_name
        FROM information_schema.tables
        WHERE table_schema = $1
        AND table_type IN ('BASE TABLE', 'VIEW')
        ORDER BY table_name
        "

def columnsSql : String := "
        SELECT
            a.attname AS name,
            format_type(a.atttypid, a.atttypmod) AS type,
            NOT a.attnotnull AS nullable,
            pg_get_expr(d.adbin, d.adrelid) AS column_default,
            a.attidentity <> '' AS is_identity,
            col_description(c.oid, a.attnum) AS comment
        FROM pg_attribute a
        JOIN pg_class c ON c.oid = a.attrelid
        JOIN pg_namespace n ON n.oid = c.relnamespace
        LEFT JOIN pg_attrdef d ON d.adrelid = a.attrelid AND d.adnum = a.attnum
        WHERE c.relname = $1 AND n.nspname = $2
        AND a.attnum > 0 AND NOT a.attisdropped
        ORDER BY a.attnum
        "

def indexesSql : String := "
        SELECT
            i.relname AS name,
            a.attname AS column_name,
            ix.indisprimary AS is_primary,
            ix.indisunique AS is_unique,
            am.amname AS method,
            pg_get_indexdef(ix.indexrelid, k.ord::int, true) AS expression
        FROM pg_index ix
        JOIN pg_class i ON i.oid = ix.indexrelid
        JOIN pg_class t ON t.oid = ix.indrelid
        JOIN pg_namespace n ON n.oid = t.relnamespace
        JOIN pg_am am ON am.oid = i.relam
        CROSS JOIN LATERAL unnest(ix.indkey) WITH ORDINALITY AS k(attnum, ord)
        LEFT JOIN pg_attribute a ON a.attrelid = t.oid AND a.attnum = k.attnum
        WHERE t.relname = $1 AND n.nspname = $2
        ORDER BY i.relname, k.ord
        "

def foreignKeysSql : String := "
        SELECT
            con.conname AS name,
            la.attname AS column_name,
            rc.relname AS referenced_table,
            ra.attname AS referenced_column,
            con.confupdtype::text AS on_update,
            con.confdeltype::text AS on_delete
        FROM pg_constraint con
        JOIN pg_class c ON c.oid = con.conrelid
        JOIN pg_namespace n ON n.oid = c.relnamespace
        JOIN pg_class rc ON rc.oid = con.confrelid
        CROSS JOIN LATERAL unnest(con.conkey, con.confkey) WITH ORDINALITY AS k(local_attnum, ref_attnum, ord)
        JOIN pg_attribute la ON la.attrelid = con.conrelid AND la.attnum = k.local_attnum
        JOIN pg_attribute ra ON ra.attrelid = con.confrelid AND ra.attnum = k.ref_attnum
        WHERE con.contype = 'f' AND c.relname = $1 AND n.nspname = $2
        ORDER BY con.conname, k.ord
        "

end Postgresql

namespace Sqlite

def tablesSql (schema : String) : String :=
  "
        SELECT name
        FROM " ++ schema ++ ".sqlite_master
        WHERE type IN ('table', 'view')
        AND name NOT LIKE 'sqlite_%'
        ORDER BY name
        "

def columnsSql : String := "
        SELECT name, type, \"notnull\", dflt_value, pk
        FROM pragma_table_info(?, ?)
        ORDER BY cid
        "

def indexesSql : String := "
        SELECT
            il.name AS name,
            il.\"unique\" AS is_unique,
            il.origin AS origin,
            ii.name AS column_name
        FROM pragma_index_list(?, ?) AS il
        JOIN pragma_index_info(il.name, ?) AS ii
        ORDER BY il.seq, ii.seqno
        "

def foreignKeysSql : String := "
        SELECT id, seq, \"table\", \"from\", \"to\", on_update, on_delete
        FROM pragma_foreign_key_list(?, ?)
        ORDER BY id, seq
        "

end Sqlite

namespace Sqlserver

def tablesSql : String := "
        SELECT TABLE_NAME
        FROM INFORMATION_SCHEMA.TABLES
        WHERE TABLE_SCHEMA = @p1
        ORDER BY TABLE_NAME
        "

def columnsSql : String := "
        SELECT
            c.COLUMN_NAME AS name,
            c.DATA_TYPE AS type,
            c.CHARACTER_MAXIMUM_LENGTH AS char_length,
            c.NUMERIC_PRECISION AS numeric_precision,
            c.NUMERIC_SCALE AS numeric_scale,
            c.IS_NULLABLE AS is_nullable,
            c.COLUMN_DEFAULT AS column_default,
            COLUMNPROPERTY(
                OBJECT_ID(QUOTENAME(c.TABLE_SCHEMA) + '.' + QUOTENAME(c.TABLE_NAME)),
                c.COLUMN_NAME,
                'IsIdentity'
            ) AS is_identity
        FROM INFORMATION_SCHEMA.COLUMNS c
        WHERE c.TABLE_NAME = @p1 AND c.TABLE_SCHEMA = @p2
        ORDER BY c.ORDINAL_POSITION
        "

def indexesSql : String := "
        SELECT
            i.name AS name,
            c.name AS column_name,
            i.is_primary_key AS is_primary,
            i.is_unique AS is_unique
        FROM sys.indexes i
        JOIN sys.index_columns ic ON ic.object_id = i.object_id AND ic.index_id = i.index_id
        JOIN sys.columns c ON c.object_id = ic.object_id AND c.column_id = ic.column_id
        WHERE i.object_id = OBJECT_ID(@p1)
        AND i.name IS NOT NULL
        AND ic.is_included_column = 0
        ORDER BY i.name, ic.key_ordinal
        "

def foreignKeysSql : String := "
        SELECT
            fk.name AS name,
            pc.name AS column_name,
            rt.name AS referenced_table,
            rc.name AS referenced_column,
            fk.update_referential_action_desc AS on_update,
            fk.delete_referential_action_desc AS on_delete
        FROM sys.foreign_keys fk
        JOIN sys.foreign_key_columns fkc ON fkc.constraint_object_id = fk.object_id
        JOIN sys.columns pc ON pc.object_id = fkc.parent_object_id AND pc.column_id = fkc.parent_column_id
        JOIN sys.tables rt ON rt.object_id = fkc.referenced_object_id
        JOIN sys.columns rc ON rc.object_id = fkc.referenced_object_id AND rc.column_id = fkc.referenced_column_id
        WHERE fk.parent_object_id = OBJECT_ID(@p1)
        ORDER BY fk.name, fkc.constraint_column_id
        "

end Sqlserver

namespace Dialect

/-- The schema that a table is looked for in when none is given, except by MySQL. -/
def defaultSchema : Dialect → String
  | mysql => ""
  | postgresql => "public"
  | sqlite => "main"
  | sqlserver => "dbo"

/-- The schema as a parameter; MySQL takes none as the schema in use. -/
def schemaParam (d : Dialect) (schema : Option String) : Param :=
  match d, schema with
  | _, some name => .string name
  | mysql, none => .null
  | d, none => .string d.defaultSchema

/-- Schema and table in brackets, as one name. -/
def objectName (table : String) (schema : Option String) : String :=
  s!"{sqlserver.quoteIdentifier (schema.getD sqlserver.defaultSchema)}." ++
    sqlserver.quoteIdentifier table

/-- The tables and views of a schema, one name a row in the first column. -/
def tablesQuery (d : Dialect) (schema : Option String) : CatalogQuery :=
  match d with
  | mysql => ⟨Mysql.tablesSql, [d.schemaParam schema]⟩
  | postgresql => ⟨Postgresql.tablesSql, [d.schemaParam schema]⟩
  | sqlite => ⟨Sqlite.tablesSql (d.quoteIdentifier (schema.getD d.defaultSchema)), []⟩
  | sqlserver => ⟨Sqlserver.tablesSql, [d.schemaParam schema]⟩

def columnsQuery (d : Dialect) (table : String) (schema : Option String) : CatalogQuery :=
  let params := [.string table, d.schemaParam schema]
  match d with
  | mysql => ⟨Mysql.columnsSql, params⟩
  | postgresql => ⟨Postgresql.columnsSql, params⟩
  | sqlite => ⟨Sqlite.columnsSql, params⟩
  | sqlserver => ⟨Sqlserver.columnsSql, params⟩

def indexesQuery (d : Dialect) (table : String) (schema : Option String) : CatalogQuery :=
  let params := [.string table, d.schemaParam schema]
  match d with
  | mysql => ⟨Mysql.indexesSql, params⟩
  | postgresql => ⟨Postgresql.indexesSql, params⟩
  | sqlite => ⟨Sqlite.indexesSql, params ++ [d.schemaParam schema]⟩
  | sqlserver => ⟨Sqlserver.indexesSql, [.string (objectName table schema)]⟩

def foreignKeysQuery (d : Dialect) (table : String) (schema : Option String) : CatalogQuery :=
  let params := [.string table, d.schemaParam schema]
  match d with
  | mysql => ⟨Mysql.foreignKeysSql, params⟩
  | postgresql => ⟨Postgresql.foreignKeysSql, params⟩
  | sqlite => ⟨Sqlite.foreignKeysSql, params⟩
  | sqlserver => ⟨Sqlserver.foreignKeysSql, [.string (objectName table schema)]⟩

end Dialect

end PortableSql
