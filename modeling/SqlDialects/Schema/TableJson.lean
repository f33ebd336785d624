import SqlDialects.Json
import SqlDialects.Schema.Table

/-! # Tables as JSON

The form in which tables are stored. The commands collected so far and the snapshots of columns are not stored.
An absent property may be left out or be null; everything else must be there and of its type, and what is not
known is passed over. -/

namespace SqlDialects
open Json

/-- The name of a type in JSON. -/
def DataType.jsonName : DataType → String
  | dateTime => "dateTime"
  | dateTimeTz => "dateTimeTz"
  | t => t.name

/-- The type of a name. -/
def DataType.ofJsonName? (name : String) : Option DataType :=
  all.find? fun t => t.jsonName == name

def DataType.toJson (t : DataType) : Json :=
  .string t.jsonName

/-- Reads a type: its name, also as the only name of an object with nothing under it. -/
def DataType.ofJson? (j : Json) : Option DataType :=
  match choice? j with
  | some (name, .null) => ofJsonName? name
  | _ => none

namespace DefaultValue

def toJson : DefaultValue → Json
  | null => .string "Null"
  | boolean b => .object [("Boolean", .bool b)]
  | integer n => .object [("Integer", .integer n.toInt)]
  | float x => .object [("Float", .ofFloat x)]
  | string s => .object [("String", .string s)]
  | expression sql => .object [("Expression", .string sql)]

/-- Reads a default: one choice with what belongs to it. -/
def ofJson? (j : Json) : Option DefaultValue :=
  match choice? j with
  | some ("Null", .null) => some null
  | some ("Boolean", j) => j.bool?.map boolean
  | some ("Integer", j) => j.int64?.map integer
  | some ("Float", j) => j.float?.map float
  | some ("String", j) => j.string?.map string
  | some ("Expression", j) => j.string?.map expression
  | _ => none

end DefaultValue

namespace Column

/-- The fields of a column in their order. -/
def fieldNames : List String :=
  ["name", "rename", "data_type", "length", "precision", "scale", "nullable", "primary_key", "auto_increment",
   "unsigned", "generated_as", "always", "virtual_as", "stored_as", "default", "use_current", "charset",
   "collation", "comment", "after", "first", "projection", "srid", "allowed_values", "added"]

/-- The fields as they are written. -/
def members (c : Column) : List (String × Json) := [
  ("name", .string c.name),
   ("rename", .ofOption .string c.rename),
   ("data_type", c.dataType.toJson),
   ("length", .ofSize c.length),
   ("precision", .ofSize c.precision),
   ("scale", .ofSize c.scale),
   ("nullable", .bool c.nullable),
   ("primary_key", .bool c.primaryKey),
   ("auto_increment", .bool c.autoIncrement),
   ("unsigned", .bool c.unsigned),
   ("generated_as", .ofOption .string c.generatedAs),
   ("always", .bool c.always),
   ("virtual_as", .ofOption .string c.virtualAs),
   ("stored_as", .ofOption .string c.storedAs),
   ("default", .ofOption DefaultValue.toJson c.default),
   ("use_current", .bool c.useCurrent),
   ("charset", .ofOption .string c.charset),
   ("collation", .ofOption .string c.collation),
   ("comment", .ofOption .string c.comment),
   ("after", .ofOption .string c.after),
   ("first", .bool c.first),
   ("projection", .ofOption .string c.projection),
   ("srid", .ofSize c.srid),
   ("allowed_values", .array (c.allowedValues.map .string)),
   ("added", .bool c.added)]

def toJson (c : Column) : Json :=
  .object c.members

/-- Reads a column. -/
def ofJson? (j : Json) : Option Column := do
  let fields ← record? fieldNames j
  return {
    name := ← required? string? fields "name"
    rename := ← optional? string? fields "rename"
    dataType := ← required? DataType.ofJson? fields "data_type"
    length := ← required? size? fields "length"
    precision := ← required? size? fields "precision"
    scale := ← required? size? fields "scale"
    nullable := ← required? bool? fields "nullable"
    primaryKey := ← required? bool? fields "primary_key"
    autoIncrement := ← required? bool? fields "auto_increment"
    unsigned := ← required? bool? fields "unsigned"
    generatedAs := ← optional? string? fields "generated_as"
    always := ← required? bool? fields "always"
    virtualAs := ← optional? string? fields "virtual_as"
    storedAs := ← optional? string? fields "stored_as"
    default := ← optional? DefaultValue.ofJson? fields "default"
    useCurrent := ← required? bool? fields "use_current"
    charset := ← optional? string? fields "charset"
    collation := ← optional? string? fields "collation"
    comment := ← optional? string? fields "comment"
    after := ← optional? string? fields "after"
    first := ← required? bool? fields "first"
    projection := ← optional? string? fields "projection"
    srid := ← required? size? fields "srid"
    allowedValues := ← required? (list? string?) fields "allowed_values"
    added := ← required? bool? fields "added" }

end Column

namespace Table

/-- The fields of a table in their order. -/
def fieldNames : List String :=
  ["name", "schema", "prefix", "temporary", "engine", "charset", "collation", "comment", "options", "columns",
   "added"]

/-- The fields as they are written. -/
def members (t : Table) : List (String × Json) := [
  ("name", .string t.name),
   ("schema", .ofOption .string t.schema),
   ("prefix", .string t.namePrefix),
   ("temporary", .bool t.temporary),
   ("engine", .ofOption .string t.engine),
   ("charset", .ofOption .string t.charset),
   ("collation", .ofOption .string t.collation),
   ("comment", .ofOption .string t.comment),
   ("options", .ofOption .string t.options),
   ("columns", .array (t.columns.map fun c => c.toColumn.toJson)),
   ("added", .bool t.added)]

def toJson (t : Table) : Json :=
  .object t.members

/-- Reads a table, which then has no commands and no snapshots. -/
def ofJson? (j : Json) : Option Table := do
  let fields ← record? fieldNames j
  return {
    name := ← required? string? fields "name"
    schema := ← optional? string? fields "schema"
    namePrefix := ← required? string? fields "prefix"
    temporary := ← required? bool? fields "temporary"
    engine := ← optional? string? fields "engine"
    charset := ← optional? string? fields "charset"
    collation := ← optional? string? fields "collation"
    comment := ← optional? string? fields "comment"
    options := ← optional? string? fields "options"
    columns := (← required? (list? Column.ofJson?) fields "columns").map TableColumn.ofColumn
    added := ← required? bool? fields "added" }

end Table
end SqlDialects
