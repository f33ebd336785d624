/-! # Dialects

The dialects of SQL that statements are written in and whose catalogs are read. -/

namespace SqlDialects

/-- A database system, by the SQL that it understands. -/
inductive Dialect where
  | mysql
  | postgres
  | sqlite
  deriving DecidableEq, Inhabited

namespace Dialect

/-- The name of the dialect, which is also the name of its driver. -/
def name : Dialect → String
  | mysql => "mysql"
  | postgres => "postgres"
  | sqlite => "sqlite"

/-- The names that a dialect answers to. -/
def aliases : Dialect → List String
  | mysql => ["mysql", "mariadb"]
  | postgres => ["postgres", "postgresql", "pg"]
  | sqlite => ["sqlite", "sqlite3"]

/-- All dialects. -/
def all : List Dialect := [mysql, postgres, sqlite]

/-- The dialect that answers to a name, in any case of its letters. -/
def ofName? (name : String) : Option Dialect :=
  all.find? fun d => d.aliases.contains name.toLower

/-- The character around identifiers. -/
def identifierQuote : Dialect → Char
  | mysql => '\x60'
  | _ => '"'

/-- Whether an `INSERT` can return columns of the inserted rows. -/
def supportsReturning : Dialect → Bool
  | mysql => false
  | _ => true

/-- The text that stands for the bound value of an index counted from zero. -/
def placeholder : Dialect → Nat → String
  | postgres, n => "$" ++ toString (n + 1)
  | _, _ => "?"

theorem ofName?_name (d : Dialect) : ofName? d.name = some d := by
  cases d <;> decide +kernel

end Dialect
end SqlDialects
