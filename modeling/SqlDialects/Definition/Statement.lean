import SqlDialects.Definition.Modifier

/-! # Statements that define

The statements that create and change tables, as data, and their text in each dialect. Several statements make a
script, one after the other on lines of their own. -/

namespace SqlDialects

/-- A name with the schema in front of it, if there is one. -/
structure QualifiedName where
  schema : Option String
  name : String
  deriving DecidableEq

def QualifiedName.render (d : Dialect) (q : QualifiedName) : String :=
  match q.schema with
  | some schema => d.quoteIdent schema ++ "." ++ d.quoteIdent q.name
  | none => d.quoteIdent q.name

/-- A property of a table that stands after its columns. -/
inductive TableOption where
  | engine (name : String)
  | charset (name : String)
  | collation (name : String)
  | comment (text : String)

/-- A property with the space before it. -/
def TableOption.render (d : Dialect) : TableOption → String
  | engine name => " ENGINE=" ++ name
  | charset name => " CHARSET=" ++ name
  | collation name => " COLLATE=" ++ name
  | comment text => " COMMENT=" ++ d.quoteString text

/-- One change of a table that exists. -/
inductive Alteration where
  | addColumn (definition : ColumnDefinition)
  /-- A new definition under the same name. -/
  | modifyColumn (definition : ColumnDefinition)
  /-- A new definition, with its name, for the column of an old name. -/
  | changeColumn (old : String) (definition : ColumnDefinition)
  | setType (column : String) (type : ColumnType)
  | setNullable (column : String) (nullable : Bool)
  | setDefault (column : String) (value : Option DefaultClause)
  | renameColumn (old new : String)
  | dropColumn (name : String)
  | addPrimaryKey (columns : List String)
  | dropPrimaryKey
  | addIndex (keywords name : String) (algorithm : Option String) (columns : List String)
  | addUnique (name : String) (columns : List String)
  | dropIndex (name : String)
  | renameIndex (old new : String)
  | dropConstraint (name : String)
  | dropForeignKey (name : String)
  | renameTable (new : String)

/-- The words before an algorithm. -/
def usingText : Option String → String
  | some algorithm => " USING " ++ algorithm
  | none => ""

def Alteration.render (d : Dialect) : Alteration → String
  | addColumn definition => "ADD COLUMN " ++ definition.render d
  | modifyColumn definition => "MODIFY COLUMN " ++ definition.render d
  | changeColumn old definition => "CHANGE COLUMN " ++ d.quoteIdent old ++ " " ++ definition.render d
  | setType column type =>
    "ALTER COLUMN " ++ d.quoteIdent column ++ " TYPE " ++ type.render d ++
      " USING " ++ d.quoteIdent column ++ "::" ++ type.render d
  | setNullable column nullable =>
    "ALTER COLUMN " ++ d.quoteIdent column ++ (if nullable then " DROP NOT NULL" else " SET NOT NULL")
  | setDefault column (some value) => "ALTER COLUMN " ++ d.quoteIdent column ++ " SET DEFAULT " ++ value.render d
  | setDefault column none => "ALTER COLUMN " ++ d.quoteIdent column ++ " DROP DEFAULT"
  | renameColumn old new => "RENAME COLUMN " ++ d.quoteIdent old ++ " TO " ++ d.quoteIdent new
  | dropColumn name => "DROP COLUMN " ++ d.quoteIdent name
  | addPrimaryKey columns => "ADD PRIMARY KEY (" ++ d.joinIdents columns "," ++ ")"
  | dropPrimaryKey => "DROP PRIMARY KEY"
  | addIndex keywords name algorithm columns =>
    "ADD " ++ keywords ++ " " ++ d.quoteIdent name ++ usingText algorithm ++ "(" ++ d.joinIdents columns "," ++ ")"
  | addUnique name columns =>
    "ADD CONSTRAINT " ++ d.quoteIdent name ++ " UNIQUE (" ++ d.joinIdents columns "," ++ ")"
  | dropIndex name => "DROP INDEX " ++ d.quoteIdent name
  | renameIndex old new => "RENAME INDEX " ++ d.quoteIdent old ++ " TO " ++ d.quoteIdent new
  | dropConstraint name => "DROP CONSTRAINT " ++ d.quoteIdent name
  | dropForeignKey name => "DROP FOREIGN KEY " ++ d.quoteIdent name
  | renameTable new => "RENAME TO " ++ d.quoteIdent new

/-- How the alterations of one statement are laid out. -/
inductive Layout where
  /-- All on the line of the table. -/
  | oneLine
  /-- Each on a line of its own, with some text before it. -/
  | lines (indent : String)

/-- Alterations with commas between them. -/
def Layout.render : Layout → List String → String
  | oneLine, items => ", ".intercalate items
  | lines indent, items => "\n" ++ ",\n".intercalate (items.map (indent ++ ·))

/-- A statement that defines. -/
inductive Statement where
  | createTable (temporary : Bool) (table : QualifiedName) (columns : List ColumnDefinition)
      (primaryKey : List String) (options : List TableOption)
  | alterTable (table : QualifiedName) (layout : Layout) (alterations : List Alteration)
  | renameTable (table : QualifiedName) (new : String)
  | dropTable (ifExists : Bool) (name : String)
  | commentOnTable (table : QualifiedName) (text : String)
  | commentOnColumn (table : QualifiedName) (column : String) (text : String)
  | createIndex (unique : Bool) (index table : QualifiedName) (algorithm : Option String) (columns : List String)
  | dropIndex (index : QualifiedName)
  | renameIndex (index : QualifiedName) (new : String)

namespace Statement

/-- The lines between the parentheses of a new table: the columns, and the primary key if it is listed. -/
def createItems (d : Dialect) (columns : List ColumnDefinition) (primaryKey : List String) : List String :=
  columns.map (·.render d) ++
    if primaryKey.isEmpty then [] else ["PRIMARY KEY (" ++ d.joinIdents primaryKey ", " ++ ")"]

/-- Items on lines of their own, indented, with commas between them and a line break after the last. -/
def itemLines (items : List String) : String :=
  if items.isEmpty then "" else ",\n".intercalate (items.map ("\t" ++ ·)) ++ "\n"

/-- A statement as text, with its semicolon. -/
def render (d : Dialect) : Statement → String
  | createTable temporary table columns primaryKey options =>
    (if temporary then "CREATE TEMPORARY TABLE " else "CREATE TABLE ") ++ table.render d ++ "(\n" ++
      itemLines (createItems d columns primaryKey) ++ ")" ++ String.join (options.map (·.render d)) ++ ";"
  | alterTable table layout alterations =>
    "ALTER TABLE " ++ table.render d ++ " " ++ layout.render (alterations.map (·.render d)) ++ ";"
  | renameTable table new => "RENAME TABLE " ++ table.render d ++ " TO " ++ d.quoteIdent new ++ ";"
  | dropTable ifExists name => (if ifExists then "DROP TABLE IF EXISTS " else "DROP TABLE ") ++ d.quoteIdent name ++ ";"
  | commentOnTable table text => "COMMENT ON TABLE " ++ table.render d ++ " IS " ++ d.quoteString text ++ ";"
  | commentOnColumn table column text =>
    "COMMENT ON COLUMN " ++ table.render d ++ "." ++ d.quoteIdent column ++ " IS " ++ d.quoteString text ++ ";"
  | createIndex unique index table algorithm columns =>
    (if unique then "CREATE UNIQUE INDEX " else "CREATE INDEX ") ++ index.render d ++ " ON " ++ table.render d ++
      usingText algorithm ++ (if d = .sqlite then " (" else "(") ++ d.joinIdents columns "," ++ ");"
  | dropIndex index => "DROP INDEX " ++ index.render d ++ ";"
  | renameIndex index new => "ALTER INDEX " ++ index.render d ++ " RENAME TO " ++ d.quoteIdent new ++ ";"

/-- Statements one after the other, each on lines of its own. -/
def script (d : Dialect) (statements : List Statement) : String :=
  "\n".intercalate (statements.map (render d))

@[simp] theorem script_nil (d : Dialect) : script d [] = "" := rfl

@[simp] theorem script_singleton (d : Dialect) (s : Statement) : script d [s] = s.render d := by
  simp [script]

end Statement
end SqlDialects
