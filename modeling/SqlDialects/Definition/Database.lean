import SqlDialects.Definition.Creation

/-! # Statements about a whole database

Dropping many tables, views or types at once, listing them, rebuilding the file of a database, and switching the
checks of foreign keys. -/

namespace SqlDialects.Database

/-- Deletes objects of some types from the catalog of SQLite, all of them if no names are given. -/
def deleteFromMaster (types : String) (names : List String) : String :=
  "delete from sqlite_master where type in (" ++ types ++ ")" ++
    (if names.isEmpty then "" else " and name in (" ++ Dialect.sqlite.joinIdents names "," ++ ")") ++ ";"

def dropTables (d : Dialect) (names : List String) : String :=
  match d with
  | .mysql => "DROP TABLE " ++ d.joinIdents names "," ++ ";"
  | .postgres => "DROP TABLE " ++ d.joinIdents names "," ++ " CASCADE;"
  | .sqlite => deleteFromMaster "'table', 'index', 'trigger'" names

def dropViews (d : Dialect) (names : List String) : String :=
  match d with
  | .mysql => "DROP VIEW " ++ d.joinIdents names "," ++ ";"
  | .postgres => "DROP VIEW " ++ d.joinIdents names "," ++ " CASCADE;"
  | .sqlite => deleteFromMaster "'view'" names

def dropTypes (d : Dialect) (names : List String) : Except Error String :=
  match d with
  | .postgres => .ok ("DROP TYPE " ++ d.joinIdents names "," ++ " CASCADE;")
  | _ => .error (d.unsupported "drop all types")

/-- Schemas as strings with commas between them; no schema means the public one. -/
def schemaList (schemas : List String) : String :=
  if schemas.isEmpty then "'public'" else ",".intercalate (schemas.map Dialect.standardString)

def listTables (d : Dialect) (schemas : List String) : String :=
  match d with
  | .mysql => "SHOW FULL TABLES WHERE table_type = 'BASE TABLE';"
  | .postgres => "select tablename from pg_catalog.pg_tables where schemaname in (" ++ schemaList schemas ++ ")"
  | .sqlite => "select name from sqlite_master where type = 'table' and name not like 'sqlite_%'"

def listViews (d : Dialect) (schemas : List String) : String :=
  match d with
  | .mysql => "SHOW FULL TABLES WHERE table_type = 'VIEW';"
  | .postgres => "select viewname from pg_catalog.pg_views where schemaname in (" ++ schemaList schemas ++ ")"
  | .sqlite => "select name from sqlite_master where type = 'view' and name not like 'sqlite_%'"

def listTypes (d : Dialect) : Except Error String :=
  match d with
  | .postgres =>
    .ok "select distinct pg_type.typname from pg_type inner join pg_enum on pg_enum.enumtypid = pg_type.oid"
  | _ => .error (d.unsupported "get all types")

/-- Writes the file of a database anew. -/
def rebuild (d : Dialect) : Except Error String :=
  match d with
  | .sqlite => .ok "vacuum"
  | _ => .error (d.unsupported "rebuild")

def enableForeignKeys : Dialect → String
  | .mysql => "SET FOREIGN_KEY_CHECKS=1;"
  | .postgres => "SET CONSTRAINTS ALL IMMEDIATE;"
  | .sqlite => "PRAGMA foreign_keys = ON;"

def disableForeignKeys : Dialect → String
  | .mysql => "SET FOREIGN_KEY_CHECKS=0;"
  | .postgres => "SET CONSTRAINTS ALL DEFERRED;"
  | .sqlite => "PRAGMA foreign_keys = OFF;"

end SqlDialects.Database
