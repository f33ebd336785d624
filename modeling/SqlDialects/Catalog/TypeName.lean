import SqlDialects.Dialect
import SqlDialects.Schema.DataType

/-! # Names of types in catalogs

A catalog reports the type of a column by a name, often with arguments in parentheses. Each dialect has spellings
of its own besides those that all share. -/

namespace SqlDialects.Catalog

/-- The name of a type without its arguments and without the blanks around it. -/
def stripArgs (name : String) : String :=
  String.ofList (Text.trim (name.toList.takeWhile (· != '(')))

/-- A spelling of one dialect, or else one that all share. -/
def ofSpellings (own : List (String × DataType)) (name : String) (shared : String) : Except Error DataType :=
  match own.lookup name with
  | some t => .ok t
  | none => DataType.ofSpelling shared

/-- The spellings of MySQL. -/
def mysqlSpellings : List (String × DataType) :=
  [("tinytext", .text), ("varbinary", .binary), ("numeric", .decimal), ("real", .double), ("bool", .boolean),
   ("bit", .boolean), ("geomcollection", .geometryCollection)]

/-- The spellings of PostgreSQL. -/
def postgresSpellings : List (String × DataType) :=
  [("bpchar", .char), ("character", .char), ("character varying", .string), ("float8", .double),
   ("double precision", .double), ("float4", .float), ("real", .float), ("numeric", .decimal), ("bool", .boolean),
   ("bytea", .blob), ("inet", .ipAddress), ("macaddr", .macAddress), ("int2", .smallInt),
   ("smallserial", .smallInt), ("serial", .int), ("bigserial", .bigInt),
   ("timestamp without time zone", .timestamp), ("timestamp with time zone", .timestampTz),
   ("time without time zone", .time), ("time with time zone", .timeTz)]

/-- The spellings of SQLite. -/
def sqliteSpellings : List (String × DataType) :=
  [("numeric", .decimal), ("real", .double), ("character", .char), ("nchar", .char), ("nvarchar", .string),
   ("varying character", .string), ("", .text), ("clob", .text)]

/-- The abstract type that a catalog names. MySQL's own spellings have no arguments; SQLite has booleans under
the name of a one-digit integer. -/
def dataType (d : Dialect) (name : String) : Except Error DataType :=
  match d with
  | .mysql =>
    let lower := (Text.trimmed name).toLower
    ofSpellings mysqlSpellings lower (stripArgs lower)
  | .postgres =>
    let lower := (stripArgs name).toLower
    ofSpellings postgresSpellings lower lower
  | .sqlite =>
    let lower := (Text.trimmed name).toLower
    if lower = "tinyint(1)" then .ok .boolean
    else ofSpellings sqliteSpellings (stripArgs lower) (stripArgs lower)

end SqlDialects.Catalog
