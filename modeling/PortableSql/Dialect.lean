import PortableSql.Text.Casing
import PortableSql.Text.Chars

namespace PortableSql

/-- The database products, each with its dialect of SQL. -/
inductive Dialect where
  | mysql
  | postgresql
  | sqlite
  | sqlserver
deriving DecidableEq, Repr, Inhabited

namespace Dialect

def all : List Dialect := [mysql, postgresql, sqlite, sqlserver]

/-- The product's name in identifiers. -/
def key : Dialect → String
  | mysql => "mysql"
  | postgresql => "postgresql"
  | sqlite => "sqlite"
  | sqlserver => "sqlserver"

def ofKey? (key : String) : Option Dialect := all.find? (·.key == key)

/-- The product's name in messages. -/
def title : Dialect → String
  | mysql => "MySQL"
  | postgresql => "PostgreSQL"
  | sqlite => "SQLite"
  | sqlserver => "SQL Server"

/-- The product's name in the texts that describe values. -/
def label : Dialect → String
  | sqlserver => "SqlServer"
  | d => d.title

/-- The openings of a connection string that choose each product. -/
def schemes : List (String × Dialect) :=
  [("postgres://", postgresql), ("postgresql://", postgresql), ("mysql://", mysql),
   ("mariadb://", mysql), ("sqlite:", sqlite), ("sqlserver://", sqlserver), ("mssql://", sqlserver)]

/-- The product a connection string belongs to, by its scheme in any case. -/
def ofConnectionString? (text : String) : Option Dialect :=
  let lower := Chars.lower text.toList
  (schemes.find? fun (opening, _) => Chars.startsWith opening.toList lower).map (·.2)

end Dialect

end PortableSql
