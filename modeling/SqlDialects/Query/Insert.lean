import SqlDialects.Query.Clause

/-! # `INSERT` statements

An `INSERT` binds one value for each column in each of its rows. -/

namespace SqlDialects

/-- An `INSERT` of rows of values. -/
structure Insert where
  table : String := ""
  columns : List String := []
  rows : List (List Value) := []
  returning : List String := []

namespace Insert

/-- One step of building: the table is set, the lists grow at their end. -/
inductive Step where
  | into (table : String)
  | columns (names : List String)
  | row (values : List Value)
  | returning (names : List String)

def step (s : Insert) : Step → Insert
  | .into table => { s with table := table }
  | .columns names => { s with columns := s.columns ++ names }
  | .row values => { s with rows := s.rows ++ [values] }
  | .returning names => { s with returning := s.returning ++ names }

/-- The statement that some steps build from nothing. -/
def ofSteps (steps : List Step) : Insert :=
  steps.foldl step {}

/-- Binds values with commas between them. -/
def writeValues : List Value → BoundText → BoundText
  | [], b => b
  | [v], b => b.bind v
  | v :: rest, b => writeValues rest ((b.bind v).write ", ")

/-- Writes rows in parentheses with commas between them; a row of another width is an error. -/
def writeRows (width : Nat) (first : Bool) : List (List Value) → BoundText → Except Error BoundText
  | [], b => .ok b
  | row :: rest, b =>
    if row.length ≠ width then .error (.placeholderCount width row.length)
    else
      let b := if first then b else b.write ", "
      writeRows width false rest ((writeValues row (b.write "(")).write ")")

/-- Writes the names of the columns to return, which not every dialect can. -/
def writeReturning (d : Dialect) (names : List String) (b : BoundText) : Except Error BoundText :=
  if names.isEmpty then .ok b
  else if d.supportsReturning then .ok ((b.write " RETURNING ").write (d.joinIdents names ", "))
  else .error (.unsupportedFeature ("RETURNING on " ++ d.name))

/-- Writes an `INSERT`, which needs a table, a column and a row. -/
def write (d : Dialect) (s : Insert) (b : BoundText) : Except Error BoundText :=
  if s.table.isEmpty then .error .tableNotSpecified
  else if s.columns.isEmpty then .error .columnNotSpecified
  else if s.rows.isEmpty then .error (.placeholderCount s.columns.length 0)
  else do
    let b := (b.write "INSERT INTO ").write (d.quoteIdent s.table)
    let b := ((b.write " (").write (d.joinIdents s.columns ", ")).write ") VALUES "
    let b ← writeRows s.columns.length true s.rows b
    writeReturning d s.returning b

instance : Writable Insert := ⟨write⟩

end Insert
end SqlDialects
