import SqlDialects.Catalog.MySql
import SqlDialects.Catalog.Postgres
import SqlDialects.Catalog.Sqlite

/-! # Reading tables from a catalog

The questions that a catalog can be asked, in the form of the dialect. A table, its columns or its constraints
are read whole or not at all. -/

namespace SqlDialects.Catalog

/-- Restricts a query of the information schema to a schema, if one is named. -/
def schemaFilter (d : Dialect) (schema : Option String) : String :=
  match schema with
  | some schema => " and table_schema = " ++ d.quoteString schema
  | none => ""

/-- The query that counts the tables of a name. -/
def tableExistsSql (d : Dialect) (table : String) (schema : Option String) : String :=
  match d with
  | .sqlite => "select count(*) from sqlite_master where type = 'table' and name = " ++ d.quoteString table
  | _ => "select count(*) from information_schema.tables where table_name = " ++ d.quoteString table ++
      schemaFilter d schema ++ " and table_type = 'BASE TABLE'"

/-- The query that lists the columns of a table. -/
def columnListingSql (d : Dialect) (table : String) (schema : Option String) : String :=
  match d with
  | .sqlite => "PRAGMA TABLE_INFO (" ++ d.quoteIdent table ++ ")"
  | _ => "select column_name from information_schema.columns where table_name = " ++ d.quoteString table ++
      schemaFilter d schema

/-- Reads the columns of a table, each with its snapshot. -/
def loadColumns (d : Dialect) (table : String) (schema : Option String) : Exchange (List TableColumn) :=
  match d with
  | .mysql => MySql.loadColumns table schema
  | .postgres => Postgres.loadColumns table schema
  | .sqlite => Sqlite.loadColumns table

/-- Reads a table with its columns. -/
def loadTable (d : Dialect) (table : String) (schema : Option String) : Exchange Table :=
  match d with
  | .mysql => MySql.loadTable table schema
  | .postgres => Postgres.loadTable table schema
  | .sqlite => Sqlite.loadTable table

/-- Reads the constraints of a table. -/
def loadConstraints (d : Dialect) (table : String) (schema : Option String) : Exchange TableConstraints :=
  match d with
  | .mysql => MySql.loadConstraints table schema
  | .postgres => Postgres.loadConstraints table schema
  | .sqlite => Sqlite.loadConstraints table

end SqlDialects.Catalog
