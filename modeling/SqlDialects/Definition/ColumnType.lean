import SqlDialects.Dialect.Identifier
import SqlDialects.Schema.Column

/-! # Column types as each dialect spells them

A type is a name, arguments in parentheses and what may follow them. `ColumnType.ofColumn` chooses the type for a
column; it fails only where the dialect has none. -/

namespace SqlDialects

/-- What stands in the parentheses after the name of a type. -/
inductive TypeArgs where
  | none
  | sizes (ns : List UInt32)
  /-- Words that are written as they are. -/
  | words (ws : List String)
  /-- Strings in quotes. -/
  | values (vs : List String)

/-- What stands after the parentheses. -/
inductive TypeTail where
  | none
  | withTimeZone
  | withoutTimeZone
  /-- The current moment as default, with as many fraction digits as the type. -/
  | defaultNow (precision : UInt32)
  /-- A restriction of a column to some strings. -/
  | check (column : String) (values : List String)
  /-- A sequence behind the column. -/
  | identity (always : Bool) (options : String)

/-- A type as a dialect spells it. -/
structure ColumnType where
  name : String
  args : TypeArgs := .none
  tail : TypeTail := .none

/-- Arguments in parentheses. -/
def TypeArgs.render (d : Dialect) : TypeArgs → String
  | none => ""
  | sizes ns => "(" ++ ", ".intercalate (ns.map fun n => toString n.toNat) ++ ")"
  | words ws => "(" ++ ", ".intercalate ws ++ ")"
  | values vs => "(" ++ d.quoteValues vs ++ ")"

/-- A name with its precision in parentheses, unless that is zero. -/
def withPrecision (name : String) (precision : UInt32) : ColumnType where
  name := name
  args := if precision > 0 then .sizes [precision] else .none

def TypeTail.render (d : Dialect) : TypeTail → String
  | none => ""
  | withTimeZone => " with time zone"
  | withoutTimeZone => " without time zone"
  | defaultNow precision =>
    let now := withPrecision "CURRENT_TIMESTAMP" precision
    " default " ++ now.name ++ now.args.render d
  | check column values => " check (" ++ d.quoteIdent column ++ " in (" ++ d.quoteValues values ++ "))"
  | identity always options =>
    " generated " ++ (if always then "always" else "by default") ++ " as identity" ++
      (if options.isEmpty then "" else "(" ++ options ++ ")")

namespace ColumnType

/-- A type as text. -/
def render (d : Dialect) (t : ColumnType) : String :=
  t.name ++ t.args.render d ++ t.tail.render d

/-- A type that is only a name. -/
def bare (name : String) : ColumnType :=
  { name := name }

/-- A type with a length. -/
def sized (name : String) (n : UInt32) : ColumnType :=
  { name := name, args := .sizes [n] }

/-- A type with a precision and a scale, unless the precision is zero. -/
def withScale (name : String) (c : Column) : ColumnType where
  name := name
  args := if c.precision > 0 then .sizes [c.precision, c.scale] else .none

/-- The name of a spatial type. -/
def spatialName? : DataType → Option String
  | .geometry => some "geometry"
  | .point => some "point"
  | .lineString => some "linestring"
  | .polygon => some "polygon"
  | .geometryCollection => some "geometrycollection"
  | .multiPoint => some "multipoint"
  | .multiLineString => some "multilinestring"
  | .multiPolygon => some "multipolygon"
  | _ => none

/-- The types of MySQL. -/
def mysql? (c : Column) : Option ColumnType :=
  match c.dataType with
  | .char => some (sized "char" c.length)
  | .string => some (sized "varchar" c.length)
  | .text => some (bare "text")
  | .mediumText => some (bare "mediumtext")
  | .longText => some (bare "longtext")
  | .tinyInt => some (bare "tinyint")
  | .smallInt => some (bare "smallint")
  | .mediumInt => some (bare "mediumint")
  | .int => some (bare "int")
  | .bigInt => some (bare "bigint")
  | .tinyBlob => some (bare "tinyblob")
  | .blob | .binary => some (bare "blob")
  | .mediumBlob => some (bare "mediumblob")
  | .longBlob => some (bare "longblob")
  | .float => some (withScale "float" c)
  | .double => some (withScale "double" c)
  | .decimal => some { name := "decimal", args := .sizes [c.precision, c.scale] }
  | .boolean => some (sized "tinyint" 1)
  | .enum => some { name := "enum", args := .values c.allowedValues }
  | .set => some { name := "set", args := .values c.allowedValues }
  | .json | .jsonb => some (bare "json")
  | .date => some (bare "date")
  | .dateTime | .dateTimeTz => some (withPrecision "datetime" c.precision)
  | .time | .timeTz => some (withPrecision "time" c.precision)
  | .timestamp | .timestampTz =>
    let t := withPrecision "timestamp" c.precision
    some (if c.useCurrent then { t with tail := .defaultNow c.precision } else t)
  | .year => some (bare "year")
  | .uuid => some (sized "char" 36)
  | .ipAddress => some (sized "varchar" 45)
  | .macAddress => some (sized "varchar" 17)
  | spatial => (spatialName? spatial).map bare

/-- The names of an integer type of PostgreSQL: plain, counting up, and in an alteration. -/
structure IntegerNames where
  plain : String
  serial : String
  altered : String

/-- An integer type of PostgreSQL. A column that counts up is declared with a serial type or as an identity; in
an alteration neither may stand. -/
def counting (names : IntegerNames) (c : Column) : ColumnType :=
  match c.generatedAs with
  | none => if !c.autoIncrement then bare names.plain else bare (if c.added then names.serial else names.altered)
  | some options =>
    if c.added then { name := names.plain, tail := .identity c.always options } else bare names.altered

/-- A type of time of PostgreSQL: without a precision it is the short name, otherwise the long one. -/
def zoned (short long : String) (tail : TypeTail) (c : Column) : ColumnType :=
  if c.precision = 0 then bare short else { name := long, args := .sizes [c.precision], tail := tail }

/-- The types of PostgreSQL. -/
def postgres? (c : Column) : Option ColumnType :=
  match c.dataType with
  | .char => some (sized "char" c.length)
  | .string => some (sized "varchar" c.length)
  | .text | .mediumText | .longText => some (bare "text")
  | .tinyInt | .smallInt => some (counting ⟨"smallint", "smallserial", "int2"⟩ c)
  | .mediumInt | .int | .year => some (counting ⟨"integer", "serial", "int4"⟩ c)
  | .bigInt => some (counting ⟨"bigint", "bigserial", "int8"⟩ c)
  | .tinyBlob | .blob | .mediumBlob | .longBlob | .binary => some (bare "bytea")
  | .float | .double => some (bare "double precision")
  | .decimal => some { name := "decimal", args := .sizes [c.precision, c.scale] }
  | .boolean => some (bare "boolean")
  | .enum => some { name := "varchar", args := .sizes [255], tail := .check c.name c.allowedValues }
  | .set => none
  | .json => some (bare "json")
  | .jsonb => some (bare "jsonb")
  | .date => some (bare "date")
  | .dateTime | .timestamp => some (zoned "timestamp" "timestamp" .withoutTimeZone c)
  | .dateTimeTz | .timestampTz => some (zoned "timestamptz" "timestamp" .withTimeZone c)
  | .time => some (zoned "time" "time" .withoutTimeZone c)
  | .timeTz => some (zoned "timetz" "time" .withTimeZone c)
  | .uuid => some (bare "uuid")
  | .ipAddress => some (bare "inet")
  | .macAddress => some (bare "macaddr")
  | spatial =>
    (spatialName? spatial).map fun name => { name := "geometry", args := .words (name :: c.projection.toList) }

/-- The types of SQLite. -/
def sqlite? (c : Column) : Option ColumnType :=
  match c.dataType with
  | .char | .string | .uuid | .ipAddress | .macAddress => some (bare "varchar")
  | .text | .mediumText | .longText | .json | .jsonb => some (bare "text")
  | .tinyInt | .smallInt | .mediumInt | .int | .bigInt | .year => some (bare "integer")
  | .tinyBlob | .blob | .mediumBlob | .longBlob | .binary => some (bare "blob")
  | .float | .double => some (bare "float")
  | .decimal => some (bare "numeric")
  | .boolean => some (sized "tinyint" 1)
  | .enum => some { name := "varchar", tail := .check c.name c.allowedValues }
  | .set => none
  | .date => some (bare "date")
  | .dateTime | .dateTimeTz | .timestamp | .timestampTz => some (bare "datetime")
  | .time | .timeTz => some (bare "time")
  | spatial => (spatialName? spatial).map bare

/-- The type of a column, if the dialect has one. -/
def ofColumn? : Dialect → Column → Option ColumnType
  | .mysql => mysql?
  | .postgres => postgres?
  | .sqlite => sqlite?

/-- The type of a column. -/
def ofColumn (d : Dialect) (c : Column) : Except Error ColumnType :=
  match ofColumn? d c with
  | some t => .ok t
  | none => .error (.unsupportedDataType c.dataType.name)

theorem ofColumn_eq_ok_iff {d : Dialect} {c : Column} {type : ColumnType} :
    ofColumn d c = .ok type ↔ ofColumn? d c = some type := by
  unfold ofColumn
  cases ofColumn? d c <;> simp

/-- The abstract types that a dialect has no type for. -/
def isUnmapped : Dialect → DataType → Bool
  | _, .multiPolygonZ => true
  | .mysql, _ => false
  | _, t => t == .set

/-- A column has no type exactly if its abstract type is unmapped; no other attribute matters. -/
theorem ofColumn?_eq_none_iff (d : Dialect) (c : Column) :
    ofColumn? d c = none ↔ isUnmapped d c.dataType = true := by
  cases d <;> cases h : c.dataType <;>
    simp [ofColumn?, mysql?, postgres?, sqlite?, isUnmapped, spatialName?, h]

theorem exists_ofColumn? {d : Dialect} {c : Column} (h : isUnmapped d c.dataType = false) :
    ∃ type, ofColumn? d c = some type := by
  refine Option.ne_none_iff_exists'.1 fun hnone => ?_
  rw [ofColumn?_eq_none_iff, h] at hnone
  exact Bool.false_ne_true hnone

end ColumnType
end SqlDialects
