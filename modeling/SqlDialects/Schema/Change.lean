import SqlDialects.Schema.Column

/-! # Changes of a column

The changes between two states of a column, in a fixed order of the attributes. -/

namespace SqlDialects

/-- One attribute that differs between two states. -/
inductive Change where
  | rename (old new : String)
  | dataType (old new : DataType)
  | length (old new : UInt32)
  | precision (old new : UInt32)
  | scale (old new : UInt32)
  | nullable (new : Bool)
  | default (old new : Option DefaultValue)
  | primaryKey (new : Bool)
  | autoIncrement (new : Bool)
  | unsigned (new : Bool)
  | comment (new : Option String)
  | collation (new : Option String)
  | charset (new : Option String)
  | allowedValues (new : List String)

/-- The changes of one column. -/
structure ColumnDiff where
  column : String
  changes : List Change

namespace ColumnDiff

/-- A change, if there is one. -/
def report (changed : Bool) (change : Change) : List Change :=
  if changed then [change] else []

/-- The changes that lead from one state of a column to another. A default changes with its value or with the
use of the current moment. -/
def between (old new : Column) : ColumnDiff where
  column := new.name
  changes :=
    (new.newName?.map (Change.rename new.name)).toList ++
    report (old.dataType != new.dataType) (.dataType old.dataType new.dataType) ++
    report (old.length != new.length) (.length old.length new.length) ++
    report (old.precision != new.precision) (.precision old.precision new.precision) ++
    report (old.scale != new.scale) (.scale old.scale new.scale) ++
    report (old.nullable != new.nullable) (.nullable new.nullable) ++
    report (old.default != new.default || old.useCurrent != new.useCurrent) (.default old.default new.default) ++
    report (old.primaryKey != new.primaryKey) (.primaryKey new.primaryKey) ++
    report (old.autoIncrement != new.autoIncrement) (.autoIncrement new.autoIncrement) ++
    report (old.unsigned != new.unsigned) (.unsigned new.unsigned) ++
    report (old.comment != new.comment) (.comment new.comment) ++
    report (old.collation != new.collation) (.collation new.collation) ++
    report (old.charset != new.charset) (.charset new.charset) ++
    report (old.allowedValues != new.allowedValues) (.allowedValues new.allowedValues)

/-- The changes of a column since it was read. -/
def ofColumn? (c : TableColumn) : Option ColumnDiff :=
  c.snapshot.map fun old => between old c.toColumn

def isEmpty (diff : ColumnDiff) : Bool :=
  diff.changes.isEmpty

theorem report_eq_nil {changed : Bool} {change : Change} : report changed change = [] ↔ changed = false := by
  cases changed <;> simp [report]

end ColumnDiff
end SqlDialects
