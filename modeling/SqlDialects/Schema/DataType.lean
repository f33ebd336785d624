import SqlDialects.Error
import SqlDialects.Text.Blank

/-! # Abstract column types

The types that a column is declared with, whatever the dialect. Each has a name, and catalogs report most of
them under one or several spellings. -/

namespace SqlDialects

/-- An abstract column type. No dialect has a type for `multiPolygonZ`. -/
inductive DataType where
  | char
  | string
  | text
  | mediumText
  | longText
  | tinyInt
  | smallInt
  | mediumInt
  | int
  | bigInt
  | tinyBlob
  | blob
  | mediumBlob
  | longBlob
  | float
  | double
  | decimal
  | boolean
  | enum
  | set
  | json
  | jsonb
  | date
  | dateTime
  | dateTimeTz
  | time
  | timeTz
  | timestamp
  | timestampTz
  | year
  | binary
  | uuid
  | ipAddress
  | macAddress
  | geometry
  | point
  | lineString
  | polygon
  | geometryCollection
  | multiPoint
  | multiLineString
  | multiPolygon
  | multiPolygonZ
  deriving DecidableEq, Inhabited

namespace DataType

/-- The name of a type. -/
def name : DataType → String
  | char => "char"
  | string => "string"
  | text => "text"
  | mediumText => "mediumText"
  | longText => "longText"
  | tinyInt => "tinyInt"
  | smallInt => "smallInt"
  | mediumInt => "mediumInt"
  | int => "int"
  | bigInt => "bigInt"
  | tinyBlob => "tinyBlob"
  | blob => "blob"
  | mediumBlob => "mediumBlob"
  | longBlob => "longBlob"
  | float => "float"
  | double => "double"
  | decimal => "decimal"
  | boolean => "boolean"
  | enum => "enum"
  | set => "set"
  | json => "json"
  | jsonb => "jsonb"
  | date => "date"
  | dateTime => "datetime"
  | dateTimeTz => "datetimeTz"
  | time => "time"
  | timeTz => "timeTz"
  | timestamp => "timestamp"
  | timestampTz => "timestampTz"
  | year => "year"
  | binary => "binary"
  | uuid => "uuid"
  | ipAddress => "ipAddress"
  | macAddress => "macAddress"
  | geometry => "geometry"
  | point => "point"
  | lineString => "lineString"
  | polygon => "polygon"
  | geometryCollection => "geometryCollection"
  | multiPoint => "multiPoint"
  | multiLineString => "multiLineString"
  | multiPolygon => "multiPolygon"
  | multiPolygonZ => "multiPolygonZ"

/-- All types. -/
def all : List DataType :=
  [char, string, text, mediumText, longText, tinyInt, smallInt, mediumInt, int, bigInt, tinyBlob, blob,
   mediumBlob, longBlob, float, double, decimal, boolean, enum, set, json, jsonb, date, dateTime,
   dateTimeTz, time, timeTz, timestamp, timestampTz, year, binary, uuid, ipAddress, macAddress, geometry,
   point, lineString, polygon, geometryCollection, multiPoint, multiLineString, multiPolygon, multiPolygonZ]

/-- The spellings that all catalogs share, in lower case. -/
def spellings : List (String × DataType) :=
  [("char", char), ("string", string), ("varchar", string), ("text", text), ("mediumtext", mediumText),
   ("longtext", longText), ("int", int), ("integer", int), ("int4", int), ("int2", int),
   ("tinyint", tinyInt), ("tinyinteger", tinyInt), ("smallint", smallInt), ("smallinteger", smallInt),
   ("mediumint", mediumInt), ("mediuminteger", mediumInt), ("bigint", bigInt), ("biginteger", bigInt),
   ("int8", bigInt), ("blob", blob), ("tinyblob", tinyBlob), ("mediumblob", mediumBlob),
   ("longblob", longBlob), ("float", float), ("double", double), ("decimal", decimal), ("boolean", boolean),
   ("enum", enum), ("set", set), ("json", json), ("jsonb", jsonb), ("date", date), ("datetime", dateTime),
   ("datetimetz", dateTimeTz), ("time", time), ("timetz", timeTz), ("timestamp", timestamp),
   ("timestamptz", timestampTz), ("year", year), ("binary", binary), ("uuid", uuid),
   ("ipaddress", ipAddress), ("macaddress", macAddress), ("geometry", geometry), ("point", point),
   ("linestring", lineString), ("polygon", polygon), ("geometrycollection", geometryCollection),
   ("multipoint", multiPoint), ("multilinestring", multiLineString), ("multipolygon", multiPolygon)]

/-- The type that a catalog spells so, in any case and between any blanks. -/
def ofSpelling (spelling : String) : Except Error DataType :=
  match spellings.lookup (Text.trimmed spelling).toLower with
  | some t => .ok t
  | none => .error (.invalidValue ("unsupported column type '" ++ spelling ++ "'"))

/-- The types that can count up by themselves. -/
def isInteger : DataType → Bool
  | tinyInt | smallInt | mediumInt | int | bigInt => true
  | _ => false

/-- The spatial types. -/
def isGeometry : DataType → Bool
  | geometry | point | lineString | polygon | geometryCollection | multiPoint | multiLineString
  | multiPolygon | multiPolygonZ => true
  | _ => false

/-- The types of a date with a time of day. -/
def isDateTime : DataType → Bool
  | dateTime | dateTimeTz => true
  | _ => false

/-- The types that can default to the current moment. -/
def isMoment : DataType → Bool
  | dateTime | dateTimeTz | timestamp | timestampTz => true
  | _ => false

end DataType
end SqlDialects
