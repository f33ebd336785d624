import SqlDialects.Catalog.Row
import SqlDialects.Text.Blank

/-! # Constraints of tables

A catalog has one row for each column of each constraint. Rows are grouped by kind and then by name, in the order
in which kinds and names first appear, and each group is read as one constraint. -/

namespace SqlDialects

inductive ConstraintKind where
  | primaryKey
  | foreignKey
  | unique
  | check
  deriving DecidableEq

/-- The kind that the information schema spells so, in any case and between any blanks. -/
def ConstraintKind.ofSpelling? (spelling : String) : Option ConstraintKind :=
  match (Text.trimmed spelling).toUpper with
  | "PRIMARY KEY" => some primaryKey
  | "FOREIGN KEY" => some foreignKey
  | "UNIQUE" => some unique
  | "CHECK" => some check
  | _ => none

/-- One column of one constraint. -/
structure ConstraintRow where
  name : String
  columnName : String
  /-- The kind as the catalog spells it. -/
  type : String
  foreignSchema : Option String := none
  foreignTable : Option String := none
  foreignColumn : Option String := none
  onUpdate : Option String := none
  onDelete : Option String := none
  checkExpr : Option String := none

/-- Reads a row of a catalog of constraints. -/
def ConstraintRow.ofRow (r : Row) : Except Error ConstraintRow := do
  let name ← r.text "name"
  let columnName ← r.text "column_name"
  let type ← r.text "type"
  return {
    name := name
    columnName := columnName
    type := type
    foreignSchema := r.text? "foreign_table_schema"
    foreignTable := r.text? "foreign_table_name"
    foreignColumn := r.text? "foreign_column_name"
    onUpdate := r.text? "on_update"
    onDelete := r.text? "on_delete"
    checkExpr := r.text? "check_expr" }

/-- A primary key or a unique constraint. -/
structure KeyConstraint where
  name : String
  columns : List String
  deriving DecidableEq

/-- A foreign key; its columns and those that they refer to are paired by position. -/
structure ForeignKey where
  name : String
  columns : List String
  foreignSchema : String
  foreignTable : String
  foreignColumns : List String
  onUpdate : String
  onDelete : String
  deriving DecidableEq

structure CheckConstraint where
  name : String
  columns : List String
  expression : String
  deriving DecidableEq

/-- All constraints of a table. -/
structure TableConstraints where
  primaryKey : Option KeyConstraint := none
  foreignKeys : List ForeignKey := []
  uniques : List KeyConstraint := []
  checks : List CheckConstraint := []

/-- Puts an item at the end of the group of its key, or in a new group behind all others. -/
def insertGroup {κ α : Type} [DecidableEq κ] (key : κ) (item : α) : List (κ × List α) → List (κ × List α)
  | [] => [(key, [item])]
  | (k, items) :: rest =>
    if k = key then (k, items ++ [item]) :: rest else (k, items) :: insertGroup key item rest

/-- Groups items by a key, groups in order of first appearance and items in their own order. -/
def groupByKey {κ α : Type} [DecidableEq κ] (key : α → κ) (items : List α) : List (κ × List α) :=
  items.foldl (fun groups item => insertGroup (key item) item groups) []

namespace ConstraintRow

/-- The rows of known kinds, each with its kind. -/
def withKinds (kindOf : String → Option ConstraintKind) (rows : List ConstraintRow) :
    List (ConstraintKind × ConstraintRow) :=
  rows.filterMap fun r => (kindOf r.type).map (·, r)

/-- Groups rows by kind and then by name; rows of unknown kinds are left out. -/
def groups (kindOf : String → Option ConstraintKind) (rows : List ConstraintRow) :
    List (ConstraintKind × List (String × List ConstraintRow)) :=
  (groupByKey Prod.fst (withKinds kindOf rows)).map fun (kind, members) =>
    (kind, groupByKey ConstraintRow.name (members.map Prod.snd))

end ConstraintRow

/-- The first of each run of equal names, wherever the others stand. -/
def distinct : List String → List String
  | [] => []
  | x :: xs => x :: (distinct xs).filter (· != x)

namespace TableConstraints

/-- The columns of a group. -/
def columnNames (rows : List ConstraintRow) : List String :=
  distinct (rows.map (·.columnName))

/-- The columns that a group refers to. -/
def foreignColumnNames (rows : List ConstraintRow) : List String :=
  distinct ((rows.filterMap (·.foreignColumn)).filter (!·.isEmpty))

/-- A property of a constraint, which its first row has. -/
def ofFirst (property : ConstraintRow → Option String) (rows : List ConstraintRow) : String :=
  (rows.head?.bind property).getD ""

/-- The groups of one kind. -/
def groupsOf (kind : ConstraintKind) (groups : List (ConstraintKind × List (String × List ConstraintRow))) :
    List (String × List ConstraintRow) :=
  (groups.filter (·.1 == kind)).flatMap (·.2)

/-- Reads constraints from rows. Of several primary keys the last one counts. -/
def ofRows (kindOf : String → Option ConstraintKind) (rows : List ConstraintRow) : TableConstraints :=
  let groups := ConstraintRow.groups kindOf rows
  { primaryKey := ((groupsOf .primaryKey groups).map fun (name, items) => ⟨name, columnNames items⟩).getLast?
    foreignKeys := (groupsOf .foreignKey groups).map fun (name, items) =>
      { name := name
        columns := columnNames items
        foreignSchema := ofFirst (·.foreignSchema) items
        foreignTable := ofFirst (·.foreignTable) items
        foreignColumns := foreignColumnNames items
        onUpdate := ofFirst (·.onUpdate) items
        onDelete := ofFirst (·.onDelete) items }
    uniques := (groupsOf .unique groups).map fun (name, items) => ⟨name, columnNames items⟩
    checks := (groupsOf .check groups).map fun (name, items) =>
      ⟨name, columnNames items, ofFirst (·.checkExpr) items⟩ }

def hasPrimaryKey (c : TableConstraints) : Bool :=
  c.primaryKey.any (!·.columns.isEmpty)

def hasForeignKeys (c : TableConstraints) : Bool :=
  !c.foreignKeys.isEmpty

def hasUniques (c : TableConstraints) : Bool :=
  !c.uniques.isEmpty

def hasChecks (c : TableConstraints) : Bool :=
  !c.checks.isEmpty

end TableConstraints
end SqlDialects
