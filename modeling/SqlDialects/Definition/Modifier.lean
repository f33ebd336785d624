import SqlDialects.Definition.ColumnType

/-! # Modifiers and definitions of columns

A definition of a column is its name, its type and its modifiers, in the order that the dialect wants. -/

namespace SqlDialects

/-- The value of a `DEFAULT`. -/
inductive DefaultClause where
  | now
  | value (v : DefaultValue)

/-- One of the words after the type of a column. -/
inductive Modifier where
  | unsigned
  | characterSet (name : String)
  | collate (name : String)
  | virtualAs (sql : String)
  | storedAs (sql : String)
  | null
  | notNull
  | srid (n : UInt32)
  | default (value : DefaultClause)
  | autoIncrement
  | comment (text : String)
  | after (column : String)
  | first
  /-- The column is the whole primary key and counts up. -/
  | countingKey

def DefaultClause.render (d : Dialect) : DefaultClause → String
  | now => "CURRENT_TIMESTAMP"
  | value v => v.render d

namespace Modifier

/-- A modifier as text, with the space before it. -/
def render (d : Dialect) : Modifier → String
  | unsigned => " UNSIGNED"
  | characterSet name => " CHARACTER SET " ++ name
  | collate name => " COLLATE " ++ d.quoteString name
  | virtualAs sql => (if d = .mysql then " AS (" else " GENERATED ALWAYS AS (") ++ sql ++ ")"
  | storedAs sql => " AS (" ++ sql ++ ") STORED"
  | null => " NULL"
  | notNull => " NOT NULL"
  | srid n => " SRID " ++ toString n.toNat
  | default value => " DEFAULT " ++ value.render d
  | autoIncrement => " AUTO_INCREMENT"
  | comment text => " COMMENT " ++ d.quoteString text
  | after column => " AFTER " ++ d.quoteIdent column
  | first => " FIRST"
  | countingKey => " PRIMARY KEY AUTOINCREMENT"

/-- The default of a column. MySQL has the current moment of a timestamp in its type. -/
def defaultClause? (d : Dialect) (c : Column) : Option DefaultClause :=
  let canBeNow := if d = .mysql then c.dataType.isDateTime else c.dataType.isMoment
  if c.useCurrent && canBeNow then some .now else c.default.map .value

/-- Whether null is allowed. A computed column of MySQL only says so if it is not. -/
def nullability (d : Dialect) (c : Column) : List Modifier :=
  if !c.nullable then [.notNull]
  else if d = .mysql && (c.virtualAs.isSome || c.storedAs.isSome) then []
  else [.null]

/-- The modifiers of MySQL. -/
def mysql (c : Column) : List Modifier :=
  (if c.unsigned then [unsigned] else []) ++
  (c.charset.map characterSet).toList ++
  (c.collation.map collate).toList ++
  (c.virtualAs.map virtualAs).toList ++
  (c.storedAs.map storedAs).toList ++
  nullability .mysql c ++
  (if c.srid > 0 then [srid c.srid] else []) ++
  ((defaultClause? .mysql c).map default).toList ++
  (if c.countsUp then [autoIncrement] else []) ++
  (c.comment.map comment).toList ++
  (c.after.map after).toList ++
  (if c.first then [first] else [])

/-- The modifiers of PostgreSQL. -/
def postgres (c : Column) : List Modifier :=
  (c.collation.map collate).toList ++
  nullability .postgres c ++
  ((defaultClause? .postgres c).map default).toList ++
  (c.virtualAs.map virtualAs).toList ++
  (c.storedAs.map storedAs).toList

/-- The modifiers of SQLite. -/
def sqlite (c : Column) : List Modifier :=
  nullability .sqlite c ++ ((defaultClause? .sqlite c).map default).toList

/-- The modifiers of a column in the order of the dialect. -/
def ofColumn : Dialect → Column → List Modifier
  | .mysql => mysql
  | .postgres => postgres
  | .sqlite => sqlite

/-- Modifiers one after the other. -/
def renderAll (d : Dialect) (ms : List Modifier) : String :=
  String.join (ms.map (render d))

end Modifier

/-- A column as a statement declares it. -/
structure ColumnDefinition where
  name : String
  type : ColumnType
  modifiers : List Modifier

namespace ColumnDefinition

def render (d : Dialect) (definition : ColumnDefinition) : String :=
  d.quoteIdent definition.name ++ " " ++ definition.type.render d ++ Modifier.renderAll d definition.modifiers

/-- The definition of a column. -/
def ofColumn (d : Dialect) (c : Column) : Except Error ColumnDefinition :=
  (ColumnType.ofColumn d c).map fun t => ⟨c.name, t, Modifier.ofColumn d c⟩

/-- The definition of a column that is the whole primary key and counts up. -/
def asCountingKey (definition : ColumnDefinition) : ColumnDefinition :=
  { definition with modifiers := definition.modifiers ++ [.countingKey] }

end ColumnDefinition
end SqlDialects
