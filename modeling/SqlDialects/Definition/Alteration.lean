import SqlDialects.Definition.Creation

/-! # Altering tables

The statements that add, modify and drop columns, keys and indexes of a table that exists, and those that rename
or drop it. What a dialect cannot do is an error that names it. -/

namespace SqlDialects.Table

/-- The alterations of PostgreSQL for a column, under its name to come. -/
def postgresAlterations (c : Column) : Except Error (List Alteration) :=
  (ColumnType.ofColumn .postgres c).map fun type =>
    [.setType c.finalName type, .setNullable c.finalName c.nullable,
     .setDefault c.finalName (Modifier.defaultClause? .postgres c)]

/-- The alteration of MySQL for a column. -/
def mysqlAlteration (c : Column) : Except Error Alteration :=
  (ColumnDefinition.ofColumn .mysql c).map fun definition =>
    match c.newName? with
    | some new => .changeColumn c.name { definition with name := new }
    | none => .modifyColumn definition

/-- The statement of PostgreSQL that renames a column, if it is to be renamed. -/
def renameStatements (t : Table) (c : TableColumn) : List Statement :=
  match c.newName? with
  | some new => [.alterTable t.qualifiedName .oneLine [.renameColumn c.name new]]
  | none => []

/-- The statements of PostgreSQL for some columns: all renames, one alteration, all comments. -/
def postgresModifications (t : Table) (columns : List TableColumn) : Except Error (List Statement) := do
  let alterations ← columns.mapM fun c => postgresAlterations c.toColumn
  return columns.flatMap t.renameStatements ++
    .alterTable t.qualifiedName (.lines "\t") alterations.flatten :: t.commentsOn Column.finalName columns

/-- Alters all columns that changed since they were read. -/
def modifyColumns (d : Dialect) (t : Table) : Except Error (List Statement) :=
  match d with
  | .sqlite => .error (d.unsupported "modifying columns")
  | .mysql =>
    if t.changedColumns.isEmpty then .ok []
    else (t.changedColumns.mapM fun c => mysqlAlteration c.toColumn).map fun alterations =>
      [.alterTable t.qualifiedName (.lines "") alterations]
  | .postgres => if t.changedColumns.isEmpty then .ok [] else t.postgresModifications t.changedColumns

/-- Alters a column to its definition at present. -/
def modifyColumn (d : Dialect) (t : Table) (name : String) : Except Error (List Statement) :=
  match d with
  | .sqlite => .error (d.unsupported "modifying columns")
  | .mysql => do
    let c ← t.findColumn name
    return [.alterTable t.qualifiedName .oneLine [← mysqlAlteration c.toColumn]]
  | .postgres => do
    let c ← t.findColumn name
    t.postgresModifications [c]

/-- The modifiers of a column that PostgreSQL and MySQL add to a table. -/
def addedModifiers (d : Dialect) (c : Column) : List Modifier :=
  match d with
  | .postgres =>
    (if c.nullable then [] else [.notNull]) ++ ((Modifier.defaultClause? d c).map Modifier.default).toList
  | _ => Modifier.ofColumn d c

/-- The definition of a column that is added to a table. SQLite marks one that counts up as the key. -/
def addedDefinition (d : Dialect) (c : Column) : Except Error ColumnDefinition :=
  (ColumnType.ofColumn d c).map fun type =>
    let definition : ColumnDefinition := ⟨c.name, type, addedModifiers d c⟩
    if d = .sqlite && c.countsUp then definition.asCountingKey else definition

/-- The statements after an addition. -/
def additionComments (d : Dialect) (t : Table) (columns : List TableColumn) : List Statement :=
  match d with
  | .postgres => t.commentsOn Column.finalName columns
  | _ => []

/-- The statements that add a column. -/
def additionOf (d : Dialect) (t : Table) (c : TableColumn) : Except Error (List Statement) :=
  (addedDefinition d c.toColumn).map fun definition =>
    .alterTable t.qualifiedName .oneLine [.addColumn definition] :: t.additionComments d [c]

/-- Adds a column. -/
def addColumn (d : Dialect) (t : Table) (name : String) : Except Error (List Statement) := do
  let c ← t.findColumn name
  t.additionOf d c

/-- Adds all declared columns, in one statement where the dialect has one. -/
def addColumns (d : Dialect) (t : Table) : Except Error (List Statement) :=
  match d with
  | .sqlite => (t.addedColumns.mapM fun c => t.addColumn d c.name).map List.flatten
  | _ =>
    if t.addedColumns.isEmpty then .ok []
    else (t.addedColumns.mapM fun c => addedDefinition d c.toColumn).map fun definitions =>
      .alterTable t.qualifiedName (.lines (if d = .postgres then "\t" else "")) (definitions.map Alteration.addColumn)
        :: t.additionComments d t.addedColumns

/-- Drops columns: several in one statement, except that SQLite takes one statement for each. -/
def dropColumnsNow (d : Dialect) (t : Table) (names : List String) : List Statement :=
  match d, names with
  | .sqlite, _ => names.map fun name => .alterTable t.qualifiedName .oneLine [.dropColumn name]
  | _, [name] => [.alterTable t.qualifiedName .oneLine [.dropColumn name]]
  | _, _ => [.alterTable t.qualifiedName (.lines "\t") (names.map Alteration.dropColumn)]

/-- One alteration on the line of the table. -/
def alter (t : Table) (alterations : List Alteration) : Except Error (List Statement) :=
  .ok [.alterTable t.qualifiedName .oneLine alterations]

/-- Makes columns the primary key. MySQL drops the old key with the same statement. -/
def addKey (d : Dialect) (t : Table) (columns : List String) : Except Error (List Statement) :=
  match d with
  | .mysql => t.alter [.dropPrimaryKey, .addPrimaryKey columns]
  | .postgres => t.alter [.addPrimaryKey columns]
  | .sqlite => .error (d.unsupported "adding a primary key")

/-- Drops the primary key, which PostgreSQL knows by the name of the table. -/
def dropKey (d : Dialect) (t : Table) : Except Error (List Statement) :=
  match d with
  | .mysql => t.alter [.dropPrimaryKey]
  | .postgres => t.alter [.dropConstraint (t.fullName ++ "_pkey")]
  | .sqlite => .error (d.unsupported "dropping a primary key")

/-- Creates an index. -/
def createIndex (d : Dialect) (t : Table) (index : Index) : Except Error (List Statement) :=
  let created (algorithm : Option String) : Except Error (List Statement) :=
    .ok [.createIndex false ⟨none, index.name⟩ t.qualifiedName algorithm index.columns]
  match d, index.kind with
  | .mysql, .primary => t.addKey d index.columns
  | .mysql, .normal => t.alter [.addIndex "INDEX" index.name index.algorithm index.columns]
  | .mysql, .unique => t.alter [.addIndex "UNIQUE" index.name index.algorithm index.columns]
  | .mysql, .spatial => t.alter [.addIndex "SPATIAL INDEX" index.name index.algorithm index.columns]
  | .mysql, .gist => t.alter [.addIndex "SPATIAL INDEX" index.name index.algorithm index.columns]
  | .mysql, .fullText => t.alter [.addIndex "FULLTEXT INDEX" index.name index.algorithm index.columns]
  | .mysql, .gin => .error (d.unsupported "gin indexes")
  | .postgres, .primary => t.addKey d index.columns
  | .postgres, .unique => t.alter [.addUnique index.name index.columns]
  | .postgres, .fullText => .error (d.unsupported "fulltext indexes")
  | .postgres, .spatial => created (some "GIST")
  | .postgres, .gist => created (some "GIST")
  | .postgres, .gin => created (some "GIN")
  | .postgres, .normal => created index.algorithm
  | .sqlite, .normal => .ok [.createIndex false (t.qualifiedIndex index.name) ⟨none, t.fullName⟩ none index.columns]
  | .sqlite, .unique => .ok [.createIndex true (t.qualifiedIndex index.name) ⟨none, t.fullName⟩ none index.columns]
  | .sqlite, kind => .error (d.unsupported (kind.keyword.toLower ++ " indexes"))

/-- Drops an index. -/
def removeIndex (d : Dialect) (t : Table) (name : String) : Except Error (List Statement) :=
  match d with
  | .mysql => t.alter [.dropIndex name]
  | _ => .ok [.dropIndex (t.qualifiedIndex name)]

/-- Drops a unique index, which is a constraint of PostgreSQL. -/
def removeUnique (d : Dialect) (t : Table) (name : String) : Except Error (List Statement) :=
  match d with
  | .postgres => t.alter [.dropConstraint name]
  | _ => t.removeIndex d name

/-- Drops a spatial index. -/
def removeSpatialIndex (d : Dialect) (t : Table) (name : String) : Except Error (List Statement) :=
  match d with
  | .sqlite => .error (d.unsupported "spatial indexes")
  | _ => t.removeIndex d name

/-- Drops a foreign key. -/
def removeForeign (d : Dialect) (t : Table) (name : String) : Except Error (List Statement) :=
  match d with
  | .mysql => t.alter [.dropForeignKey name]
  | .postgres => t.alter [.dropConstraint name]
  | .sqlite => .error (d.unsupported "dropping foreign keys")

/-- Gives the table another name. -/
def changeName (d : Dialect) (t : Table) (new : String) : List Statement :=
  match d with
  | .mysql => [.renameTable t.qualifiedName new]
  | _ => [.alterTable t.qualifiedName .oneLine [.renameTable new]]

/-- Gives an index another name. -/
def changeIndexName (d : Dialect) (t : Table) (old new : String) : Except Error (List Statement) :=
  match d with
  | .mysql => t.alter [.renameIndex old new]
  | .postgres => .ok [.renameIndex (t.qualifiedIndex old) new]
  | .sqlite => .error (d.unsupported "renaming indexes")

end SqlDialects.Table

namespace SqlDialects.Command

/-- The statements that carry out a command on a table as it is at present. -/
def statements (d : Dialect) (t : Table) : Command → Except Error (List Statement)
  | createTable => t.create d
  | addColumn name => t.addColumn d name
  | modifyColumn name => t.modifyColumn d name
  | dropColumns names => .ok (t.dropColumnsNow d names)
  | renameTable new => .ok (t.changeName d new)
  | dropTable name => .ok [.dropTable false name]
  | dropTableIfExists name => .ok [.dropTable true name]
  | addPrimaryKey columns => t.addKey d columns
  | dropPrimaryKey => t.dropKey d
  | addIndex index => t.createIndex d index
  | dropIndex name => t.removeIndex d name
  | dropUnique name => t.removeUnique d name
  | dropSpatialIndex name => t.removeSpatialIndex d name
  | dropForeign name => t.removeForeign d name
  | renameIndex old new => t.changeIndexName d old new

/-- The text that carries out a command. -/
def text (d : Dialect) (t : Table) (c : Command) : Except Error String :=
  (c.statements d t).map (Statement.script d)

end SqlDialects.Command
