import SqlDialects.Query.Clause

/-! # `SELECT` statements

A statement is built by steps, each of which touches one clause; the clauses are written in a fixed order. -/

namespace SqlDialects

/-- Which rows without a partner a join keeps. -/
inductive JoinKind where
  | inner
  | left
  | right
  | full
  deriving DecidableEq

def JoinKind.keyword : JoinKind → String
  | inner => " INNER JOIN "
  | left => " LEFT JOIN "
  | right => " RIGHT JOIN "
  | full => " FULL JOIN "

/-- A joined table and the condition of the join. -/
structure Join where
  kind : JoinKind
  table : String
  on : Condition

/-- A `SELECT`. Columns, groups and orders are expressions and written as they are. -/
structure Select where
  distinct : Bool := false
  columns : List String := []
  table : String := ""
  joins : List Join := []
  filter : List (Conjunction × Condition) := []
  groupBy : List String := []
  having : List (Conjunction × Condition) := []
  orderBy : List String := []
  limit : Option UInt64 := none
  offset : Option UInt64 := none

namespace Select

/-- One step of building: lists grow at their end, all else is set. -/
inductive Step where
  | columns (names : List String)
  | source (table : String)
  | distinct
  | join (kind : JoinKind) (table : String) (on : Condition)
  | filter (conjunction : Conjunction) (c : Condition)
  | groupBy (terms : List String)
  | having (conjunction : Conjunction) (c : Condition)
  | orderBy (terms : List String)
  | orderByDesc (terms : List String)
  | limit (n : UInt64)
  | offset (n : UInt64)

def step (s : Select) : Step → Select
  | .columns names => { s with columns := s.columns ++ names }
  | .source table => { s with table := table }
  | .distinct => { s with distinct := true }
  | .join kind table on => { s with joins := s.joins ++ [⟨kind, table, on⟩] }
  | .filter conjunction c => { s with filter := s.filter ++ [(conjunction, c)] }
  | .groupBy terms => { s with groupBy := s.groupBy ++ terms }
  | .having conjunction c => { s with having := s.having ++ [(conjunction, c)] }
  | .orderBy terms => { s with orderBy := s.orderBy ++ terms }
  | .orderByDesc terms => { s with orderBy := s.orderBy ++ terms.map (· ++ " DESC") }
  | .limit n => { s with limit := some n }
  | .offset n => { s with offset := some n }

/-- The statement that some steps build from nothing. -/
def ofSteps (steps : List Step) : Select :=
  steps.foldl step {}

/-- Writes the joins in order. -/
def writeJoins (d : Dialect) : List Join → BoundText → Except Error BoundText
  | [], b => .ok b
  | j :: rest, b => do
    let b := ((b.write j.kind.keyword).write (d.quoteIdent j.table)).write " ON "
    writeJoins d rest (← j.on.write d b)

/-- The text up to the joins. -/
def writeHead (d : Dialect) (s : Select) (b : BoundText) : BoundText :=
  let b := b.write "SELECT "
  let b := if s.distinct then b.write "DISTINCT " else b
  let b := b.write (if s.columns.isEmpty then "*" else ", ".intercalate s.columns)
  (b.write " FROM ").write (d.quoteIdent s.table)

/-- Writes a `SELECT`; one without a table has no text. -/
def write (d : Dialect) (s : Select) (b : BoundText) : Except Error BoundText :=
  if s.table.isEmpty then .error .tableNotSpecified
  else do
    let b ← writeJoins d s.joins (writeHead d s b)
    let b ← Clause.conditions d " WHERE " s.filter b
    let b := Clause.terms " GROUP BY " s.groupBy b
    let b ← Clause.conditions d " HAVING " s.having b
    let b := Clause.terms " ORDER BY " s.orderBy b
    return Clause.number " OFFSET " s.offset (Clause.number " LIMIT " s.limit b)

instance : Writable Select := ⟨write⟩

end Select
end SqlDialects
