import SqlDialects.Schema.Change
import SqlDialects.Schema.Index
import SqlDialects.Text.Case

/-! # Tables

A table is declared or read from a catalog and then changed. Changes of a table that exists collect commands,
which are turned into statements later and in the order of their collection. -/

namespace SqlDialects

/-- A statement to be written for a table. A command names columns; it does not hold their definitions. -/
inductive Command where
  | createTable
  | addColumn (name : String)
  | modifyColumn (name : String)
  | dropColumns (names : List String)
  | renameTable (new : String)
  | dropTable (name : String)
  | dropTableIfExists (name : String)
  | addPrimaryKey (columns : List String)
  | dropPrimaryKey
  | addIndex (index : Index)
  | dropIndex (name : String)
  | dropUnique (name : String)
  | dropSpatialIndex (name : String)
  | dropForeign (name : String)
  | renameIndex (old new : String)
  deriving DecidableEq, Inhabited

/-- The name of the sort of command. -/
def Command.kind : Command → String
  | createTable => "create_table"
  | addColumn _ => "add_column"
  | modifyColumn _ => "modify_column"
  | dropColumns _ => "drop_columns"
  | renameTable _ => "rename_table"
  | dropTable _ => "drop_table"
  | dropTableIfExists _ => "drop_table_if_exists"
  | addPrimaryKey _ => "add_primary_key"
  | dropPrimaryKey => "drop_primary_key"
  | addIndex _ => "add_index"
  | dropIndex _ => "drop_index"
  | dropUnique _ => "drop_unique"
  | dropSpatialIndex _ => "drop_spatial_index"
  | dropForeign _ => "drop_foreign"
  | renameIndex _ _ => "rename_index"

/-- A table, its columns in order, and the commands collected so far. -/
structure Table where
  name : String
  schema : Option String := none
  /-- Stands in front of the name. -/
  namePrefix : String := ""
  temporary : Bool := false
  engine : Option String := none
  charset : Option String := none
  collation : Option String := none
  comment : Option String := none
  options : Option String := none
  columns : List TableColumn := []
  /-- Declared here, not read from a catalog. -/
  added : Bool := true
  commands : List Command := []
  deriving Inhabited

namespace Table

/-- A table to be created. -/
def declare (name : String) : Table :=
  { name := name }

/-- A table as found in a catalog, its columns still to be read. -/
def found (name : String) : Table :=
  { name := name, added := false }

/-- The name with what stands in front of it. -/
def fullName (t : Table) : String :=
  t.namePrefix ++ t.name

/-- Sets the schema; the empty name means none. -/
def setSchema (t : Table) (schema : String) : Table :=
  { t with schema := if schema.isEmpty then none else some schema }

/-- Appends a command. -/
def push (t : Table) (command : Command) : Table :=
  { t with commands := t.commands ++ [command] }

/-- Appends a column, and on a table that exists the command to add it. -/
def pushColumn (t : Table) (c : TableColumn) : Table :=
  let t := { t with columns := t.columns ++ [c] }
  if t.added then t else t.push (.addColumn c.name)

/-- Drops the columns of a name, whatever its case, from the declaration. Commands stay. -/
def removeColumn (t : Table) (name : String) : Table :=
  { t with columns := t.columns.filter fun c => !Text.sameIgnoringCase c.name name }

/-- The first column of a name. -/
def column? (t : Table) (name : String) : Option TableColumn :=
  t.columns.find? fun c => c.name == name

/-- The column of a name, or the error that there is none. -/
def findColumn (t : Table) (name : String) : Except Error TableColumn :=
  match t.column? name with
  | some c => .ok c
  | none => .error (.notFound ("column '" ++ name ++ "' in table '" ++ t.name ++ "'"))

/-- Changes the first column of a name. -/
def updateColumn (t : Table) (name : String) (f : TableColumn → TableColumn) : Table :=
  { t with columns := go t.columns }
where
  go : List TableColumn → List TableColumn
    | [] => []
    | c :: rest => if c.name == name then f c :: rest else c :: go rest

/-- The names of the columns of the primary key, in column order. -/
def primaryKey (t : Table) : List String :=
  (t.columns.filter (·.primaryKey)).map (·.name)

/-- The columns that were declared. -/
def addedColumns (t : Table) : List TableColumn :=
  t.columns.filter (·.added)

/-- Whether a column was read from a catalog and changed since. -/
def isChanged (c : TableColumn) : Bool :=
  !c.added && (ColumnDiff.ofColumn? c).any (!·.isEmpty)

/-- The columns that were read and changed since. -/
def changedColumns (t : Table) : List TableColumn :=
  t.columns.filter isChanged

def renameTo (t : Table) (new : String) : Table :=
  t.push (.renameTable new)

def drop (t : Table) : Table :=
  t.push (.dropTable t.fullName)

def dropIfExists (t : Table) : Table :=
  t.push (.dropTableIfExists t.fullName)

/-- Applies options to a column now and collects the command to alter it, also if there is no such column. -/
def modify (t : Table) (name : String) (options : List ColumnOption) : Table :=
  (t.updateColumn name (·.apply options)).push (.modifyColumn name)

def dropColumns (t : Table) (names : List String) : Table :=
  t.push (.dropColumns names)

def addPrimaryKey (t : Table) (columns : List String) : Table :=
  t.push (.addPrimaryKey columns)

def dropPrimaryKey (t : Table) : Table :=
  t.push .dropPrimaryKey

def addIndex (t : Table) (kind : IndexKind) (columns : List String) (options : List IndexOption) : Table :=
  t.push (.addIndex (.declare kind columns options))

def dropIndex (t : Table) (name : String) : Table :=
  t.push (.dropIndex name)

def dropUnique (t : Table) (name : String) : Table :=
  t.push (.dropUnique name)

def dropSpatialIndex (t : Table) (name : String) : Table :=
  t.push (.dropSpatialIndex name)

def dropForeign (t : Table) (name : String) : Table :=
  t.push (.dropForeign name)

def renameIndex (t : Table) (old new : String) : Table :=
  t.push (.renameIndex old new)

/-- The table without its commands. -/
def withoutCommands (t : Table) : Table :=
  { t with commands := [] }

/-- Marks the table and its columns as declared, so that all of it can be written for another database. -/
def redeclare (t : Table) : Table :=
  { t with
    added := true
    columns := t.columns.map fun c => .ofColumn { c.toColumn with added := true } }

theorem column?_eq_none_iff {t : Table} {name : String} : t.column? name = none ↔ name ∉ t.columns.map (·.name) := by
  simp [column?]

theorem name_of_column? {t : Table} {name : String} {c : TableColumn} (h : t.column? name = some c) : c.name = name :=
  beq_iff_eq.1 (List.find?_some (p := fun c : TableColumn => c.name == name) h)

theorem findColumn_eq_ok_iff {t : Table} {name : String} {c : TableColumn} :
    t.findColumn name = .ok c ↔ t.column? name = some c := by
  unfold findColumn
  cases t.column? name <;> simp

theorem findColumn_eq_error {t : Table} {name : String} (h : t.column? name = none) :
    t.findColumn name = .error (.notFound ("column '" ++ name ++ "' in table '" ++ t.name ++ "'")) := by
  rw [findColumn, h]

@[simp] theorem commands_push (t : Table) (c : Command) : (t.push c).commands = t.commands ++ [c] := rfl

@[simp] theorem columns_push (t : Table) (c : Command) : (t.push c).columns = t.columns := rfl

end Table
end SqlDialects
