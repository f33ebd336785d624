import SqlDialects.Definition.Statement
import SqlDialects.Schema.Table

/-! # Creating tables

The statements that create a table with all its columns. The primary key is listed after the columns; SQLite
instead marks a column that counts up if that column is the whole key. -/

namespace SqlDialects

/-- The error that a dialect lacks a feature. -/
def Dialect.unsupported (d : Dialect) (feature : String) : Error :=
  .unsupportedFeature (d.name ++ " does not support " ++ feature)

namespace Table

/-- The name of a table in its schema. -/
def qualifiedName (t : Table) : QualifiedName :=
  ⟨t.schema, t.fullName⟩

/-- The name of an index in the schema of a table. -/
def qualifiedIndex (t : Table) (name : String) : QualifiedName :=
  ⟨t.schema, name⟩

/-- The properties that MySQL writes after the columns. -/
def tableOptions (t : Table) : List TableOption :=
  (t.engine.map TableOption.engine).toList ++
  (t.charset.map TableOption.charset).toList ++
  (t.collation.map TableOption.collation).toList ++
  (t.comment.map TableOption.comment).toList

/-- The name of the column that SQLite marks as the whole primary key: the first one that counts up and is alone
in the key, or the first one that counts up if no key is declared. -/
def countingKey? (t : Table) : Option String :=
  let isKey (c : TableColumn) : Bool :=
    match t.primaryKey with
    | [] => true
    | [only] => only == c.name
    | _ => false
  ((t.columns.filter (·.countsUp)).find? isKey).map (·.name)

/-- The primary key to be listed after the columns. -/
def listedKey (d : Dialect) (t : Table) : List String :=
  if d = .sqlite && t.countingKey?.isSome then [] else t.primaryKey

/-- The definition of a column within the creation of its table. -/
def definitionIn (d : Dialect) (t : Table) (c : TableColumn) : Except Error ColumnDefinition :=
  (ColumnDefinition.ofColumn d c.toColumn).map fun definition =>
    if d = .sqlite && t.countingKey? == some c.name then definition.asCountingKey else definition

/-- The comments of some columns, each under the name that `nameOf` gives. -/
def commentsOn (t : Table) (nameOf : Column → String) (columns : List TableColumn) : List Statement :=
  columns.filterMap fun c =>
    c.comment.map fun text => .commentOnColumn t.qualifiedName (nameOf c.toColumn) text

/-- The statements after a creation. Only PostgreSQL comments in statements of their own. -/
def creationComments (d : Dialect) (t : Table) : List Statement :=
  match d with
  | .postgres =>
    (t.comment.map (Statement.commentOnTable t.qualifiedName)).toList ++ t.commentsOn (·.name) t.columns
  | _ => []

/-- The statements that create a table. -/
def create (d : Dialect) (t : Table) : Except Error (List Statement) := do
  let definitions ← t.columns.mapM (t.definitionIn d)
  let options := if d = .mysql then t.tableOptions else []
  return .createTable t.temporary t.qualifiedName definitions (t.listedKey d) options :: t.creationComments d

end Table
end SqlDialects
