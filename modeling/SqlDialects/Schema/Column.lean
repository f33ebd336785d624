import SqlDialects.Schema.DataType
import SqlDialects.Schema.DefaultValue

/-! # Columns

A column is a record of attributes that options change one after the other. A column that was read from a
catalog also keeps the attributes that it was read with, so that later changes can be told. -/

namespace SqlDialects

/-- The attributes of a column. -/
structure Column where
  name : String
  /-- The name to come, if the column is to be renamed. -/
  rename : Option String := none
  dataType : DataType
  length : UInt32 := 0
  /-- The digits of a number, or the fraction digits of a time. -/
  precision : UInt32 := 0
  scale : UInt32 := 0
  nullable : Bool := false
  primaryKey : Bool := false
  autoIncrement : Bool := false
  unsigned : Bool := false
  /-- The options of an identity sequence. -/
  generatedAs : Option String := none
  /-- An identity that no insertion can override. -/
  always : Bool := false
  virtualAs : Option String := none
  storedAs : Option String := none
  default : Option DefaultValue := none
  /-- Default to the current moment. -/
  useCurrent : Bool := false
  charset : Option String := none
  collation : Option String := none
  comment : Option String := none
  /-- The column to stand after. -/
  after : Option String := none
  /-- To stand before all other columns. -/
  first : Bool := false
  projection : Option String := none
  srid : UInt32 := 0
  /-- The members of an enumeration or a set. -/
  allowedValues : List String := []
  /-- Declared here, not read from a catalog. -/
  added : Bool := true
  deriving Inhabited

/-- A change of one attribute, or of two that belong together. -/
inductive ColumnOption where
  | rename (name : String)
  | after (column : String)
  | autoIncrement
  | notAutoIncrement
  | allowedValues (values : List String)
  | charset (name : String)
  | comment (text : String)
  | collation (name : String)
  | default (value : DefaultValue)
  | first
  | generatedAs (options : String) (always : Bool)
  | nullable (b : Bool)
  | primaryKey
  | storedAs (sql : String)
  | dataType (t : DataType)
  | unsigned
  | useCurrent
  | virtualAs (sql : String)
  | length (n : UInt32)
  | precision (n : UInt32)
  | scale (n : UInt32)
  | size (precision scale : UInt32)
  | notNull
  | allowNull
  | projection (text : String)
  | srid (n : UInt32)

namespace Column

/-- Applies one option. -/
def set (c : Column) : ColumnOption → Column
  | .rename name => { c with rename := some name }
  | .after column => { c with after := some column }
  | .autoIncrement => { c with autoIncrement := true }
  | .notAutoIncrement => { c with autoIncrement := false }
  | .allowedValues values => { c with allowedValues := values }
  | .charset name => { c with charset := some name }
  | .comment text => { c with comment := some text }
  | .collation name => { c with collation := some name }
  | .default value => { c with default := some value }
  | .first => { c with first := true }
  | .generatedAs options always => { c with generatedAs := some options, always := always }
  | .nullable b => { c with nullable := b }
  | .primaryKey => { c with primaryKey := true }
  | .storedAs sql => { c with storedAs := some sql }
  | .dataType t => { c with dataType := t }
  | .unsigned => { c with unsigned := true }
  | .useCurrent => { c with useCurrent := true }
  | .virtualAs sql => { c with virtualAs := some sql }
  | .length n => { c with length := n }
  | .precision n => { c with precision := n }
  | .scale n => { c with scale := n }
  | .size precision scale => { c with precision := precision, scale := scale }
  | .notNull => { c with nullable := false }
  | .allowNull => { c with nullable := true }
  | .projection text => { c with projection := some text }
  | .srid n => { c with srid := n }

/-- Applies options in order. -/
def apply (c : Column) (options : List ColumnOption) : Column :=
  options.foldl set c

/-- The name to come, if it is one and differs from the name at present. -/
def newName? (c : Column) : Option String :=
  c.rename.filter fun new => !new.isEmpty && new != c.name

/-- The name once all changes are made. -/
def finalName (c : Column) : String :=
  c.newName?.getD c.name

/-- Whether the column counts up by itself. -/
def countsUp (c : Column) : Bool :=
  c.autoIncrement && c.dataType.isInteger

@[simp] theorem apply_nil (c : Column) : c.apply [] = c := rfl

@[simp] theorem apply_cons (c : Column) (o : ColumnOption) (os : List ColumnOption) :
    c.apply (o :: os) = (c.set o).apply os := rfl

theorem newName?_ne {c : Column} {new : String} (h : c.newName? = some new) : new ≠ c.name := by
  have hf := (Option.filter_eq_some_iff.1 h).2
  simp only [Bool.and_eq_true, bne_iff_ne] at hf
  exact hf.2

theorem apply_append (c : Column) (os ps : List ColumnOption) : c.apply (os ++ ps) = (c.apply os).apply ps := by
  simp [apply]

end Column

/-- A column of a table, with the attributes that it was read with if it was read from a catalog. -/
structure TableColumn extends Column where
  snapshot : Option Column := none
  deriving Inhabited

namespace TableColumn

/-- A column that was never read. -/
def ofColumn (c : Column) : TableColumn :=
  { toColumn := c }

/-- Applies options to the attributes; the snapshot stays. -/
def apply (c : TableColumn) (options : List ColumnOption) : TableColumn :=
  { c with toColumn := c.toColumn.apply options }

/-- Takes the attributes at present as the snapshot. -/
def store (c : TableColumn) : TableColumn :=
  { c with snapshot := some c.toColumn }

/-- A column just read: its snapshot is the column itself. -/
def loaded (c : Column) : TableColumn :=
  { toColumn := c, snapshot := some c }

@[simp] theorem snapshot_apply (c : TableColumn) (options : List ColumnOption) :
    (c.apply options).snapshot = c.snapshot := rfl

end TableColumn
end SqlDialects
