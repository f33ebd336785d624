import SqlDialects.Catalog.Constraint
import SqlDialects.Catalog.DefaultText
import SqlDialects.Catalog.EnumCheck
import SqlDialects.Catalog.Exchange
import SqlDialects.Catalog.TypeName
import SqlDialects.Catalog.ValueList
import SqlDialects.Schema.Table

/-! # Reading tables from the catalog of PostgreSQL -/

namespace SqlDialects.Catalog.Postgres
open Text

/-- The query for the columns of a table, up to the name of the table, with a further test for counting columns. -/
def columnsSql (identityTest : String) : String :=
  "\n".intercalate [
    "",
    "SELECT",
    "    d.nspname AS table_schema,",
    "    c.relname AS table_name,",
    "    a.attname AS column_name,",
    "    COALESCE(td.typname, tb.typname, t.typname) AS data_type,",
    "    COALESCE(td.typtype, tb.typtype, t.typtype) AS type_type,",
    "    a.attlen AS character_maximum_length,",
    "    pg_catalog.col_description(c.oid, a.attnum) AS column_comment,",
    "    a.atttypmod AS modifier,",
    "    a.attnotnull = false AS is_nullable,",
    "    CAST(pg_get_expr(ad.adbin, ad.adrelid) AS varchar) AS column_default,",
    "    coalesce(pg_get_expr(ad.adbin, ad.adrelid) ~ 'nextval', false) " ++ identityTest ++ " AS is_autoinc,",
    "    pg_get_serial_sequence(quote_ident(d.nspname) || '.' || quote_ident(c.relname), a.attname) AS sequence_name,",
    "    CASE WHEN COALESCE(td.typtype, tb.typtype, t.typtype) = 'e'::char",
    "        THEN array_to_string((SELECT array_agg(enumlabel) FROM pg_enum WHERE enumtypid = COALESCE(td.oid, tb.oid, a.atttypid))::varchar[], ',')",
    "        ELSE NULL",
    "    END AS enum_values,",
    "    CASE atttypid",
    "        WHEN 21 THEN 16",
    "        WHEN 23 THEN 32",
    "        WHEN 20 THEN 64",
    "        WHEN 1700 THEN",
    "            CASE WHEN atttypmod = -1 THEN null ELSE ((atttypmod - 4) >> 16) & 65535 END",
    "        WHEN 700 THEN 24",
    "        WHEN 701 THEN 53",
    "        ELSE null",
    "    END AS numeric_precision,",
    "    CASE",
    "        WHEN atttypid IN (21, 23, 20) THEN 0",
    "        WHEN atttypid IN (1700) THEN",
    "            CASE WHEN atttypmod = -1 THEN null ELSE (atttypmod - 4) & 65535 END",
    "        ELSE null",
    "    END AS numeric_scale,",
    "    CAST(",
    "        information_schema._pg_char_max_length(information_schema._pg_truetypid(a, t), information_schema._pg_truetypmod(a, t))",
    "        AS numeric",
    "    ) AS size,",
    "    a.attnum = any (ctp.conkey) AS is_pkey,",
    "    pg_get_constraintdef(ctc.oid) AS check,",
    "    COALESCE(NULLIF(a.attndims, 0), NULLIF(t.typndims, 0), (t.typcategory='A')::int) AS dimension",
    "FROM",
    "    pg_class c",
    "    LEFT JOIN pg_attribute a ON a.attrelid = c.oid",
    "    LEFT JOIN pg_attrdef ad ON a.attrelid = ad.adrelid AND a.attnum = ad.adnum",
    "    LEFT JOIN pg_type t ON a.atttypid = t.oid",
    "    LEFT JOIN pg_type tb ON (a.attndims > 0 OR t.typcategory='A') AND t.typelem > 0 AND t.typelem = tb.oid OR t.typbasetype > 0 AND t.typbasetype = tb.oid",
    "    LEFT JOIN pg_type td ON t.typndims > 0 AND t.typbasetype > 0 AND tb.typelem = td.oid",
    "    LEFT JOIN pg_namespace d ON d.oid = c.relnamespace",
    "    LEFT JOIN pg_constraint ctp ON ctp.conrelid = c.oid AND ctp.contype = 'p'",
    "    LEFT JOIN pg_constraint ctc ON ctc.conrelid = c.oid AND ctc.contype = 'c' AND a.attnum = any(ctc.conkey)",
    "WHERE",
    "    a.attnum > 0 AND t.typname != '' AND NOT a.attisdropped",
    "    AND c.relname = "]

/-- The query for the rows of all constraints, up to the name of the table. -/
def constraintsSql : String :=
  "\n".intercalate [
    "",
    "SELECT",
    "    \"c\".\"conname\" AS \"name\",",
    "    \"a\".\"attname\" AS \"column_name\",",
    "    \"c\".\"contype\" AS \"type\",",
    "    \"ftcns\".\"nspname\" AS \"foreign_table_schema\",",
    "    \"ftc\".\"relname\" AS \"foreign_table_name\",",
    "    \"fa\".\"attname\" AS \"foreign_column_name\",",
    "    \"c\".\"confupdtype\" AS \"on_update\",",
    "    \"c\".\"confdeltype\" AS \"on_delete\",",
    "    pg_get_constraintdef(\"c\".\"oid\") AS \"check_expr\"",
    "FROM \"pg_class\" AS \"tc\"",
    "INNER JOIN \"pg_namespace\" AS \"tcns\"",
    "    ON \"tcns\".\"oid\" = \"tc\".\"relnamespace\"",
    "INNER JOIN \"pg_constraint\" AS \"c\"",
    "    ON \"c\".\"conrelid\" = \"tc\".\"oid\"",
    "INNER JOIN LATERAL unnest(\"c\".\"conkey\", \"c\".\"confkey\")",
    "    WITH ORDINALITY AS \"k\"(\"attnum\", \"foreign_attnum\", \"position\") ON TRUE",
    "INNER JOIN \"pg_attribute\" AS \"a\"",
    "    ON \"a\".\"attrelid\" = \"c\".\"conrelid\" AND \"a\".\"attnum\" = \"k\".\"attnum\"",
    "LEFT JOIN \"pg_class\" AS \"ftc\"",
    "    ON \"ftc\".\"oid\" = \"c\".\"confrelid\"",
    "LEFT JOIN \"pg_namespace\" AS \"ftcns\"",
    "    ON \"ftcns\".\"oid\" = \"ftc\".\"relnamespace\"",
    "LEFT JOIN \"pg_attribute\" \"fa\"",
    "    ON \"fa\".\"attrelid\" = \"c\".\"confrelid\" AND \"fa\".\"attnum\" = \"k\".\"foreign_attnum\"",
    "WHERE \"tc\".\"relname\" = "]

/-- The kind that the catalog abbreviates so. -/
def constraintKind? (code : String) : Option ConstraintKind :=
  match code with
  | "p" => some .primaryKey
  | "f" => some .foreignKey
  | "u" => some .unique
  | "c" => some .check
  | _ => none

/-- The action of a foreign key that the catalog abbreviates so. -/
def referentialAction (code : String) : String :=
  match code with
  | "a" => "NO ACTION"
  | "r" => "RESTRICT"
  | "c" => "CASCADE"
  | "n" => "SET NULL"
  | "d" => "SET DEFAULT"
  | _ => ""

/-- The digits and points at the start of the second word of a banner. -/
def versionText (banner : String) : List Char :=
  (((Text.splitAt ' ' banner.toList)[1]?).getD []).takeWhile fun c => c.isDigit || c = '.'

/-- Reads the version of a server as one decimal number. -/
def serverVersion (banner : String) : Except Error Number.Decimal :=
  match Number.readMagnitude? (versionText banner) with
  | some version => .ok version
  | none => .error (.invalidValue ("cannot read server version from '" ++ banner ++ "'"))

/-- Whether a version knows identity columns: the double nearest to it is at least 12, which holds from the
midpoint to the next smaller double on. -/
def hasIdentity (version : Number.Decimal) : Bool :=
  Number.compareScaled version.digits version.exponent (12 * Nat.pow 2 50 - 1) (-50) != .lt

/-- The further test for counting columns. -/
def identityTest (version : Number.Decimal) : String :=
  if hasIdentity version then "OR attidentity != ''" else ""

/-- The default of a column, and whether it is the current moment. A counter is no default. -/
def defaultOf (r : Row) : ReadDefault :=
  match r.text? "column_default" with
  | some raw => if "nextval(".toList.isPrefixOf raw.toList then ⟨none, false⟩ else readDefault raw
  | none => ⟨none, false⟩

/-- The values of the check of an enumeration, if a row has such a check for its column. -/
def checkedValues (r : Row) (column : String) : List String :=
  (((r.text? "check").bind fun check => EnumCheck.postgresValues? check column)).getD []

/-- Reads a column from its row. A type with members and a check of a list of values are enumerations. -/
def columnOf (r : Row) : Except Error TableColumn := do
  let name ← r.text "column_name"
  let members := r.text? "enum_values"
  let t ← if members.isSome then pure .enum else do dataType .postgres (← r.text "data_type")
  let default := defaultOf r
  let (t, values) := match members with
    | some members => (t, splitList (fun _ => false) members.toList)
    | none =>
      let checked := checkedValues r name
      (if checked.isEmpty then t else .enum, checked)
  return .loaded {
    name := name
    dataType := t
    added := false
    nullable := (r.bool? "is_nullable").getD false
    length := r.size "size"
    precision := r.size "numeric_precision"
    scale := r.size "numeric_scale"
    default := default.value
    useCurrent := default.useCurrent
    comment := r.text? "column_comment"
    primaryKey := (r.bool? "is_pkey").getD false
    autoIncrement := (r.bool? "is_autoinc").getD false
    allowedValues := values }

/-- Restricts a query to a schema, if one is named. -/
def inSchema (words : String) (schema : Option String) : String :=
  match schema with
  | some schema => words ++ Dialect.postgres.quoteString schema
  | none => ""

def loadColumns (table : String) (schema : Option String) : Exchange (List TableColumn) := do
  let rows ← Exchange.inContext "querying the server version" (Exchange.query "select version()" [])
  let banner := ((rows.head?.bind Row.first?).bind Value.text?).getD ""
  let version ← serverVersion banner
  let sql := columnsSql (identityTest version) ++ Dialect.postgres.quoteString table ++
    inSchema " AND d.nspname = " schema ++ " ORDER BY a.attnum;"
  let rows ← Exchange.inContext ("loading columns of table '" ++ table ++ "'") (Exchange.query sql [])
  Exchange.ofExcept (rows.mapM columnOf)

/-- The query for the properties of a table, up to the name of the table. -/
def tableSql : String :=
  "select ns.nspname as table_schema, c.relname as table_name, " ++
  "cast(obj_description(c.relfilenode,'pg_class') as varchar) as table_comment " ++
  "from pg_class as c left join pg_namespace as ns on c.relnamespace = ns.oid " ++
  "where c.relname = "

def loadTable (table : String) (schema : Option String) : Exchange Table := do
  let sql := tableSql ++ Dialect.postgres.quoteString table ++ inSchema " and ns.nspname = " schema
  let rows ← Exchange.query sql []
  let info ← Exchange.first rows ("table '" ++ table ++ "'")
  let name ← info.text "table_name"
  let found := match info.text? "table_schema" with
    | some schema => (Table.found name).setSchema schema
    | none => Table.found name
  let columns ← loadColumns name found.schema
  return { found with comment := info.text? "table_comment", columns := columns }

/-- A foreign key with its actions spelled out. -/
def withActions (key : ForeignKey) : ForeignKey :=
  { key with onUpdate := referentialAction key.onUpdate, onDelete := referentialAction key.onDelete }

def loadConstraints (table : String) (schema : Option String) : Exchange TableConstraints := do
  let sql := constraintsSql ++ Dialect.postgres.quoteString table ++ inSchema " AND \"tcns\".\"nspname\" = " schema ++
    " ORDER BY \"c\".\"conname\" ASC, \"k\".\"position\" ASC"
  let rows ← Exchange.inContext ("loading constraints of table '" ++ table ++ "'")
    (Exchange.load ConstraintRow.ofRow sql [])
  let constraints := TableConstraints.ofRows constraintKind? rows
  return { constraints with foreignKeys := constraints.foreignKeys.map withActions }

end SqlDialects.Catalog.Postgres
