import SqlDialects.Catalog.Constraint
import SqlDialects.Catalog.Exchange
import SqlDialects.Catalog.TypeName
import SqlDialects.Catalog.ValueList
import SqlDialects.Dialect.Literal
import SqlDialects.Schema.Table
import SqlDialects.Text.Search

/-! # Reading tables from the information schema of MySQL -/

namespace SqlDialects.Catalog.MySql
open Text

/-- The query for the rows of all constraints but checks. The schema stands for itself, the table for a place. -/
def constraintsSql : String :=
  "\n".intercalate [
    "",
    "SELECT",
    "    kcu.CONSTRAINT_NAME AS name,",
    "    kcu.COLUMN_NAME AS column_name,",
    "    tc.CONSTRAINT_TYPE AS type,",
    "    CASE",
    "        WHEN :schemaName IS NULL AND kcu.REFERENCED_TABLE_SCHEMA = DATABASE() THEN NULL",
    "        ELSE kcu.REFERENCED_TABLE_SCHEMA",
    "    END AS foreign_table_schema,",
    "    kcu.REFERENCED_TABLE_NAME AS foreign_table_name,",
    "    kcu.REFERENCED_COLUMN_NAME AS foreign_column_name,",
    "    rc.UPDATE_RULE AS on_update,",
    "    rc.DELETE_RULE AS on_delete,",
    "    kcu.ORDINAL_POSITION AS position",
    "FROM",
    "    information_schema.KEY_COLUMN_USAGE AS kcu,",
    "    information_schema.REFERENTIAL_CONSTRAINTS AS rc,",
    "    information_schema.TABLE_CONSTRAINTS AS tc",
    "WHERE",
    "    kcu.TABLE_SCHEMA = COALESCE(:schemaName, DATABASE()) AND kcu.CONSTRAINT_SCHEMA = kcu.TABLE_SCHEMA AND kcu.TABLE_NAME = :tableName",
    "    AND rc.CONSTRAINT_SCHEMA = kcu.TABLE_SCHEMA AND rc.TABLE_NAME = :tableName AND rc.CONSTRAINT_NAME = kcu.CONSTRAINT_NAME",
    "    AND tc.TABLE_SCHEMA = kcu.TABLE_SCHEMA AND tc.TABLE_NAME = :tableName AND tc.CONSTRAINT_NAME = kcu.CONSTRAINT_NAME AND tc.CONSTRAINT_TYPE = 'FOREIGN KEY'",
    "UNION",
    "SELECT",
    "    kcu.CONSTRAINT_NAME AS name,",
    "    kcu.COLUMN_NAME AS column_name,",
    "    tc.CONSTRAINT_TYPE AS type,",
    "    NULL AS foreign_table_schema,",
    "    NULL AS foreign_table_name,",
    "    NULL AS foreign_column_name,",
    "    NULL AS on_update,",
    "    NULL AS on_delete,",
    "    kcu.ORDINAL_POSITION AS position",
    "FROM",
    "    information_schema.KEY_COLUMN_USAGE AS kcu,",
    "    information_schema.TABLE_CONSTRAINTS AS tc",
    "WHERE",
    "    kcu.TABLE_SCHEMA = COALESCE(:schemaName, DATABASE()) AND kcu.TABLE_NAME = :tableName",
    "    AND tc.TABLE_SCHEMA = kcu.TABLE_SCHEMA AND tc.TABLE_NAME = :tableName AND tc.CONSTRAINT_NAME = kcu.CONSTRAINT_NAME AND tc.CONSTRAINT_TYPE IN ('PRIMARY KEY', 'UNIQUE')",
    "ORDER BY position ASC"]

/-- A text from one place up to another, counted from its start. -/
def cutBetween (start stop : Nat) (cs : List Char) : Except Failure (List Char) :=
  if start ≤ stop then .ok ((cs.take stop).drop start) else .error .reversedCut

/-- What stands between the first opening and the last closing parenthesis, if there are both. -/
def inParentheses (cs : List Char) : Except Failure (Option (List Char)) :=
  match cutFirst? ['('] cs, cutLast? [')'] cs with
  | some (beforeOpening, _), some (beforeClosing, _) =>
    (cutBetween (beforeOpening.length + 1) beforeClosing.length cs).map some
  | _, _ => .ok none

/-- The members of an enumeration or a set, read from its type with arguments. -/
def allowedValues (columnType : String) : Except Failure (List String) :=
  (inParentheses columnType.toList).map fun
    | some inner => splitList (· = '\'') inner
    | none => []

/-- The default of a column, and whether it is the current moment. -/
def defaultOf (r : Row) : Option DefaultValue × Bool :=
  match r.text? "COLUMN_DEFAULT" with
  | none => (none, false)
  | some text =>
    if "CURRENT_TIMESTAMP".toList.isPrefixOf text.toUpper.toList then (some (.expression "CURRENT_TIMESTAMP"), true)
    else if sameIgnoringCase text "NULL" then (none, false)
    else (some (.string text), false)

/-- The abstract type of a column. -/
def dataTypeOf (r : Row) (columnType : String) : Except Error DataType :=
  if sameIgnoringCase columnType "tinyint(1)" then .ok .boolean
  else do dataType .mysql (← r.text "DATA_TYPE")

/-- The attributes of a column but for the members of an enumeration. -/
def attributesOf (r : Row) : Except Error Column := do
  let columnType := (r.text? "COLUMN_TYPE").getD ""
  let name ← r.text "COLUMN_NAME"
  let t ← dataTypeOf r columnType
  let (default, isNow) := defaultOf r
  let extra := ((r.text? "EXTRA").getD "").toList
  let countsUp := occurs "auto_increment".toList extra
  let updatesToNow := occurs "CURRENT_TIMESTAMP".toList (extra.map Char.toUpper)
  return {
    name := name
    dataType := t
    added := false
    nullable := (r.text? "IS_NULLABLE").any (sameIgnoringCase · "YES")
    length := r.size "CHARACTER_MAXIMUM_LENGTH"
    precision := r.size "NUMERIC_PRECISION"
    scale := r.size "NUMERIC_SCALE"
    default := default
    useCurrent := isNow || (!countsUp && updatesToNow)
    comment := (r.text? "COLUMN_COMMENT").filter (!·.isEmpty)
    charset := r.text? "CHARACTER_SET_NAME"
    collation := r.text? "COLLATION_NAME"
    primaryKey := r.text? "COLUMN_KEY" == some "PRI"
    autoIncrement := countsUp
    unsigned := occurs "unsigned".toList columnType.toList }

/-- Reads a column from its row. -/
def columnOf (r : Row) : Except Failure TableColumn := do
  let c ← (attributesOf r).mapError Failure.error
  let hasMembers := c.dataType = .enum || c.dataType = .set
  let members ← if hasMembers then allowedValues ((r.text? "COLUMN_TYPE").getD "") else pure []
  return .loaded { c with allowedValues := members }

/-- A query for the rows of a table in the information schema, and its values. -/
def tableQuery (source table : String) (schema : Option String) : String × List Value :=
  ("select * from information_schema." ++ source ++ " where table_name = ?" ++
      (if schema.isSome then " and table_schema = ?" else ""),
    .text table :: (schema.map Value.text).toList)

def loadColumns (table : String) (schema : Option String) : Exchange (List TableColumn) := do
  let (sql, args) := tableQuery "columns" table schema
  let rows ← Exchange.inContext ("loading columns of table '" ++ table ++ "'")
    (Exchange.query (sql ++ " order by ORDINAL_POSITION") args)
  Exchange.ofResult (rows.mapM columnOf)

def loadTable (table : String) (schema : Option String) : Exchange Table := do
  let (sql, args) := tableQuery "tables" table schema
  let rows ← Exchange.query sql args
  let info ← Exchange.first rows ("table '" ++ table ++ "'")
  let name ← info.text "TABLE_NAME"
  let found := match info.text? "TABLE_SCHEMA" with
    | some schema => (Table.found name).setSchema schema
    | none => Table.found name
  let columns ← loadColumns name found.schema
  return { found with
    engine := info.text? "ENGINE"
    collation := info.text? "TABLE_COLLATION"
    options := (info.text? "CREATE_OPTIONS").filter (!·.isEmpty)
    comment := (info.text? "TABLE_COMMENT").filter (!·.isEmpty)
    columns := columns }

/-- The query for the constraints of a schema: its name is put in as a literal first, then each mention of the
table becomes a place. -/
def constraintsQuery (schema : Option String) : String :=
  let literal := match schema with
    | some schema => Dialect.mysql.quoteString schema
    | none => "NULL"
  String.ofList (replaceAll ":tableName".toList ['?']
    (replaceAll ":schemaName".toList literal.toList constraintsSql.toList))

def loadConstraints (table : String) (schema : Option String) : Exchange TableConstraints := do
  let rows ← Exchange.inContext ("loading constraints of table '" ++ table ++ "'")
    (Exchange.load ConstraintRow.ofRow (constraintsQuery schema) (List.replicate 5 (.text table)))
  return .ofRows ConstraintKind.ofSpelling? rows

end SqlDialects.Catalog.MySql
