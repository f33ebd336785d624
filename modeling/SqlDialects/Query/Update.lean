import SqlDialects.Query.Clause

/-! # `UPDATE` statements

An `UPDATE` sets columns to values or to expressions, in the order in which they were given. -/

namespace SqlDialects

/-- What a column is set to. -/
inductive Assigned where
  | value (v : Value)
  | expr (sql : String) (args : List Value)

/-- An `UPDATE` of one table. -/
structure Update where
  table : String
  assignments : List (String × Assigned) := []
  filter : List (Conjunction × Condition) := []
  orderBy : List String := []
  limit : Option UInt64 := none

namespace Update

/-- One step of building: lists grow at their end, the limit is set. -/
inductive Step where
  | set (column : String) (v : Value)
  | setExpr (column : String) (sql : String) (args : List Value)
  | filter (conjunction : Conjunction) (c : Condition)
  | orderBy (terms : List String)
  | limit (n : UInt64)

def step (s : Update) : Step → Update
  | .set column v => { s with assignments := s.assignments ++ [(column, .value v)] }
  | .setExpr column sql args => { s with assignments := s.assignments ++ [(column, .expr sql args)] }
  | .filter conjunction c => { s with filter := s.filter ++ [(conjunction, c)] }
  | .orderBy terms => { s with orderBy := s.orderBy ++ terms }
  | .limit n => { s with limit := some n }

/-- The statement that some steps build for a table. -/
def ofSteps (table : String) (steps : List Step) : Update :=
  steps.foldl step { table := table }

/-- Writes assignments with commas between them. -/
def writeAssignments (d : Dialect) (first : Bool) : List (String × Assigned) → BoundText → Except Error BoundText
  | [], b => .ok b
  | (column, assigned) :: rest, b => do
    let b := if first then b else b.write ", "
    let b := (b.write (d.quoteIdent column)).write " = "
    let b ← match assigned with
      | .value v => pure (b.bind v)
      | .expr sql args => Marker.write sql args b
    writeAssignments d false rest b

/-- Writes an `UPDATE`, which needs a table and an assignment. -/
def write (d : Dialect) (s : Update) (b : BoundText) : Except Error BoundText :=
  if s.table.isEmpty then .error .tableNotSpecified
  else if s.assignments.isEmpty then .error .columnNotSpecified
  else do
    let b := ((b.write "UPDATE ").write (d.quoteIdent s.table)).write " SET "
    let b ← writeAssignments d true s.assignments b
    let b ← Clause.conditions d " WHERE " s.filter b
    return Clause.number " LIMIT " s.limit (Clause.terms " ORDER BY " s.orderBy b)

instance : Writable Update := ⟨write⟩

end Update
end SqlDialects
