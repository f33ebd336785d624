import SqlDialects.Schema.Table

/-! # Ready-made columns

The ways to declare a column with one word. Most only fix its type. An identity is an unsigned key that counts
up, whatever the options; a string is 255 characters long unless they say otherwise; a hardware address is 17
characters long whatever they say. -/

namespace SqlDialects

/-- A ready-made sort of column. -/
inductive ColumnTemplate where
  /-- Only a type. -/
  | plain (t : DataType)
  /-- A key that counts up. -/
  | identity (t : DataType)
  /-- A string of limited length. -/
  | sized (t : DataType)
  /-- A hardware address. -/
  | macAddress

namespace ColumnTemplate

/-- The length of a string that was given none. -/
def defaultLength : UInt32 := 255

/-- The options before and after those of the caller. -/
def around : ColumnTemplate → List ColumnOption × List ColumnOption
  | plain _ => ([], [])
  | identity _ => ([], [.primaryKey, .autoIncrement, .unsigned])
  | sized _ => ([.length defaultLength], [])
  | macAddress => ([], [.length 17])

def dataType : ColumnTemplate → DataType
  | plain t | identity t | sized t => t
  | macAddress => .macAddress

/-- The column of a name. -/
def column (template : ColumnTemplate) (name : String) (options : List ColumnOption) : Column :=
  let (before, after) := template.around
  Column.apply { name := name, dataType := template.dataType } (before ++ options ++ after)

end ColumnTemplate

/-- Declares a column of a table. -/
def Table.declareColumn (t : Table) (template : ColumnTemplate) (name : String) (options : List ColumnOption) :
    Table :=
  t.pushColumn (.ofColumn (template.column name options))

end SqlDialects
