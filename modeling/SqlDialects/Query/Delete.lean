import SqlDialects.Query.Clause

/-! # `DELETE` statements -/

namespace SqlDialects

/-- A `DELETE` from one table. -/
structure Delete where
  table : String
  filter : List (Conjunction × Condition) := []
  orderBy : List String := []
  limit : Option UInt64 := none

namespace Delete

/-- One step of building: lists grow at their end, the limit is set. -/
inductive Step where
  | filter (conjunction : Conjunction) (c : Condition)
  | orderBy (terms : List String)
  | limit (n : UInt64)

def step (s : Delete) : Step → Delete
  | .filter conjunction c => { s with filter := s.filter ++ [(conjunction, c)] }
  | .orderBy terms => { s with orderBy := s.orderBy ++ terms }
  | .limit n => { s with limit := some n }

/-- The statement that some steps build for a table. -/
def ofSteps (table : String) (steps : List Step) : Delete :=
  steps.foldl step { table := table }

/-- Writes a `DELETE`, which needs a table. -/
def write (d : Dialect) (s : Delete) (b : BoundText) : Except Error BoundText :=
  if s.table.isEmpty then .error .tableNotSpecified
  else do
    let b := (b.write "DELETE FROM ").write (d.quoteIdent s.table)
    let b ← Clause.conditions d " WHERE " s.filter b
    return Clause.number " LIMIT " s.limit (Clause.terms " ORDER BY " s.orderBy b)

instance : Writable Delete := ⟨write⟩

end Delete
end SqlDialects
