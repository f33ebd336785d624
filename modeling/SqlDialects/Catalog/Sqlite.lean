import SqlDialects.Catalog.Constraint
import SqlDialects.Catalog.DefaultText
import SqlDialects.Catalog.EnumCheck
import SqlDialects.Catalog.Exchange
import SqlDialects.Catalog.TypeName
import SqlDialects.Dialect.Identifier
import SqlDialects.Schema.Table

/-! # Reading tables from the catalog of SQLite

SQLite keeps the text that created a table. What its listings do not say, whether a key counts up and what values
an enumeration allows, is read from the lines of that text. -/

namespace SqlDialects.Catalog.Sqlite
open Text

/-- A column as the listing of a table shows it. -/
structure ColumnInfo where
  cid : Int64
  name : String
  type : String
  notNull : Bool
  default : Option String
  /-- The place in the primary key, counted from one; zero for a column outside of it. -/
  keyPlace : Int64
  deriving DecidableEq

def ColumnInfo.ofRow (r : Row) : Except Error ColumnInfo := do
  let cid ← r.int "cid"
  let name ← r.text "name"
  return {
    cid := cid
    name := name
    type := (r.text? "type").getD ""
    notNull := (r.bool? "notnull").getD false
    default := r.text? "dflt_value"
    keyPlace := (r.int? "pk").getD 0 }

/-- An index as the listing of indexes shows it. Old versions do not report its origin. -/
structure IndexInfo where
  name : String
  unique : Bool
  origin : Option String
  deriving DecidableEq

def IndexInfo.ofRow (r : Row) : Except Error IndexInfo := do
  let name ← r.text "name"
  return {
    name := name
    unique := (r.bool? "unique").getD false
    origin := (r.text? "origin").filter (!·.isEmpty) }

/-- A column of an index. -/
structure IndexPart where
  cid : Int64
  name : String
  deriving DecidableEq

def IndexPart.ofRow (r : Row) : Except Error IndexPart :=
  .ok ⟨(r.int? "cid").getD (-1), (r.text? "name").getD ""⟩

/-- Reads a row of the listing of foreign keys. Keys have numbers instead of names. -/
def foreignKeyRow (r : Row) : Except Error ConstraintRow := do
  let id ← r.int "id"
  let column ← r.text "from"
  return {
    name := "fk_" ++ Number.intText id
    columnName := column
    type := "FOREIGN KEY"
    foreignTable := r.text? "table"
    foreignColumn := r.text? "to"
    onUpdate := r.text? "on_update"
    onDelete := r.text? "on_delete" }

/-- The name of the column that a line defines, if the line begins with one in double quotes. -/
def definedName? : List Char → Option String
  | '"' :: rest => (cutFirst? ['"'] rest).map fun (name, _) => String.ofList name
  | _ => none

/-- The lines that define columns, each with the name of its column, without the indentation and the comma. -/
def definitionLines (createSql : String) : List (String × String) :=
  ((lines createSql.toList).map (trimEnds fun c => c = ' ' || c = ',' || c = '\t')).filterMap fun line =>
    (definedName? line).map (·, String.ofList line)

/-- The line that defines a column; of several lines the last one. -/
def definitionLine? (createSql name : String) : Option String :=
  (definitionLines createSql).reverse.lookup name

/-- Reads a column from its listing and the line that defines it. -/
def columnOf (info : ColumnInfo) (line : Option String) : Except Error TableColumn := do
  let t ← dataType .sqlite info.type
  let default := match info.default with
    | some raw => readDefault raw
    | none => ⟨none, false⟩
  let isKey := info.keyPlace > 0
  let values := line.bind fun line => EnumCheck.sqliteValues? line info.name
  return .loaded {
    name := info.name
    dataType := if values.isSome then .enum else t
    added := false
    nullable := !info.notNull
    default := default.value
    useCurrent := default.useCurrent
    primaryKey := isKey
    autoIncrement := isKey && line.any fun line => occurs "PRIMARY KEY AUTOINCREMENT".toList line.toList
    allowedValues := values.getD [] }

/-- Asks for the listing of a table. -/
def tableInfo (table : String) : Exchange (List ColumnInfo) :=
  Exchange.load ColumnInfo.ofRow ("PRAGMA TABLE_INFO (" ++ Dialect.sqlite.quoteIdent table ++ ")") []

def loadColumns (table : String) : Exchange (List TableColumn) := do
  let texts ← Exchange.inContext ("reading the definition of table '" ++ table ++ "'")
    (Exchange.load Row.string "select sql from sqlite_master where type = ? and tbl_name = ?"
      [.text "table", .text table])
  match texts with
  | [] => Exchange.fail (.error (.notFound ("table '" ++ table ++ "'")))
  | createSql :: _ => do
    let infos ← tableInfo table
    Exchange.ofExcept (infos.mapM fun info => columnOf info (definitionLine? createSql info.name))

def loadTable (table : String) : Exchange Table := do
  let columns ← loadColumns table
  return { Table.found table with columns := columns }

/-- Where an index comes from, guessed from its first column and its name: from the primary key, from a unique
constraint, or from a statement. -/
def guessedOrigin (columns : List ColumnInfo) (index : IndexInfo) (parts : List IndexPart) : String :=
  let firstIsKey := parts.head?.any fun part => columns.any fun c => c.cid == part.cid && c.keyPlace > 0
  if firstIsKey then "pk"
  else if index.unique && "sqlite_".toList.isPrefixOf index.name.toList then "u"
  else "c"

/-- Enters an index among the constraints: as the key, as a unique constraint, or not at all. A unique index that
a statement created is a constraint too. -/
def enterIndex (constraints : TableConstraints) (index : IndexInfo) (origin : String) (parts : List IndexPart) :
    TableConstraints :=
  let key : KeyConstraint := ⟨index.name, parts.map (·.name)⟩
  if origin = "pk" then { constraints with primaryKey := some key }
  else if origin = "u" || (origin = "c" && index.unique) then
    { constraints with uniques := constraints.uniques ++ [key] }
  else constraints

/-- Asks for the columns of each index and enters it. -/
def enterIndexes (columns : List ColumnInfo) : List IndexInfo → TableConstraints → Exchange TableConstraints
  | [], constraints => pure constraints
  | index :: rest, constraints => do
    let statement := "PRAGMA INDEX_INFO (" ++ Dialect.sqlite.quoteString index.name ++ ")"
    let parts ← Exchange.load IndexPart.ofRow statement []
    let origin := index.origin.getD (guessedOrigin columns index parts)
    enterIndexes columns rest (enterIndex constraints index origin parts)

/-- The primary key that the listing of a table shows, its columns by their places in the key. -/
def listedKey? (columns : List ColumnInfo) : Option KeyConstraint :=
  let keyed := (columns.filter (·.keyPlace > 0)).mergeSort fun a b => a.keyPlace ≤ b.keyPlace
  if keyed.isEmpty then none else some ⟨"", keyed.map (·.name)⟩

/-- Reads the constraints of a table. The listing of the table is asked for at most once: first if an index has
no origin, otherwise only if no index is the primary key. -/
def loadConstraints (table : String) : Exchange TableConstraints := do
  let indexes ← Exchange.inContext ("listing indexes of table '" ++ table ++ "'")
    (Exchange.load IndexInfo.ofRow ("PRAGMA INDEX_LIST (" ++ Dialect.sqlite.quoteString table ++ ")") [])
  let early ← if indexes.any (·.origin.isNone) then some <$> tableInfo table else pure none
  let constraints ← enterIndexes (early.getD []) indexes {}
  let primaryKey ← match constraints.primaryKey with
    | some key => pure (some key)
    | none => do
      let columns ← match early with
        | some columns => pure columns
        | none => tableInfo table
      pure (listedKey? columns)
  let rows ← Exchange.inContext ("listing foreign keys of table '" ++ table ++ "'")
    (Exchange.load foreignKeyRow ("PRAGMA FOREIGN_KEY_LIST (" ++ Dialect.sqlite.quoteIdent table ++ ")") [])
  let foreignKeys := (TableConstraints.ofRows ConstraintKind.ofSpelling? rows).foreignKeys
  return { constraints with primaryKey := primaryKey, foreignKeys := foreignKeys }

end SqlDialects.Catalog.Sqlite
