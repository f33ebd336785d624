import SqlDialects.Query.Delete
import SqlDialects.Query.Insert
import SqlDialects.Query.Select
import SqlDialects.Query.Update

/-!
# Recipes for queries

A recipe is the sequence of calls that builds a query, with a label in the place of each value. Filling
the labels gives one run of the calls, and two fillings of a recipe are two runs that differ only in their
values. Lists of labels have the same length in every run.
-/

namespace SqlDialects

/-- A test of a column against one value. -/
inductive Test where
  | eq
  | neq
  | gt
  | gte
  | lt
  | lte
  | like
  | notLike

namespace Test

def condition : Test → String → Value → Condition
  | eq => Condition.eq
  | neq => Condition.neq
  | gt => Condition.gt
  | gte => Condition.gte
  | lt => Condition.lt
  | lte => Condition.lte
  | like => Condition.like
  | notLike => Condition.notLike

/-- The tests that are written differently for null. -/
def looksAtNull : Test → Bool
  | eq | neq => true
  | _ => false

end Test

/-- The calls that build a condition. All ways to join conditions build groups. -/
inductive Recipe (ι : Type) where
  | expr (sql : String) (labels : List ι)
  | column (name tail : String) (labels : List ι)
  | isNull (name : String)
  | isNotNull (name : String)
  | test (t : Test) (name : String) (label : ι)
  | inList (name : String) (labels : List ι)
  | notInList (name : String) (labels : List ι)
  | group (members : List (Conjunction × Recipe ι))

variable {ι : Type}

namespace Recipe

mutual

/-- The condition that one run builds. -/
def fill (ρ : ι → Value) : Recipe ι → Condition
  | expr sql labels => .expr sql (labels.map ρ)
  | column name tail labels => .column name tail (labels.map ρ)
  | isNull name => .isNull name
  | isNotNull name => .isNotNull name
  | test t name label => t.condition name (ρ label)
  | inList name labels => .inList name (labels.map ρ)
  | notInList name labels => .notInList name (labels.map ρ)
  | group members => .group (fillMembers ρ members)

def fillMembers (ρ : ι → Value) : List (Conjunction × Recipe ι) → List (Conjunction × Condition)
  | [] => []
  | (conjunction, r) :: rest => (conjunction, fill ρ r) :: fillMembers ρ rest

end

mutual

/-- The labels whose values are looked at for null. -/
def nullLabels : Recipe ι → List ι
  | test t _ label => if t.looksAtNull then [label] else []
  | group members => nullLabelsOf members
  | _ => []

def nullLabelsOf : List (Conjunction × Recipe ι) → List ι
  | [] => []
  | (_, r) :: rest => nullLabels r ++ nullLabelsOf rest

end

end Recipe

/-- A call on a `SELECT` in the making. -/
inductive Select.Call (ι : Type) where
  | columns (names : List String)
  | source (table : String)
  | distinct
  | join (kind : JoinKind) (table : String) (on : Recipe ι)
  | filter (conjunction : Conjunction) (r : Recipe ι)
  | groupBy (terms : List String)
  | having (conjunction : Conjunction) (r : Recipe ι)
  | orderBy (terms : List String)
  | orderByDesc (terms : List String)
  | limit (n : UInt64)
  | offset (n : UInt64)

namespace Select.Call

def step (ρ : ι → Value) : Call ι → Step
  | columns names => .columns names
  | source table => .source table
  | distinct => .distinct
  | join kind table on => .join kind table (on.fill ρ)
  | filter conjunction r => .filter conjunction (r.fill ρ)
  | groupBy terms => .groupBy terms
  | having conjunction r => .having conjunction (r.fill ρ)
  | orderBy terms => .orderBy terms
  | orderByDesc terms => .orderByDesc terms
  | limit n => .limit n
  | offset n => .offset n

def nullLabels : Call ι → List ι
  | join _ _ r | filter _ r | having _ r => r.nullLabels
  | _ => []

end Select.Call

/-- A call on an `INSERT` in the making. -/
inductive Insert.Call (ι : Type) where
  | into (table : String)
  | columns (names : List String)
  | row (labels : List ι)
  | returning (names : List String)

def Insert.Call.step (ρ : ι → Value) : Call ι → Step
  | into table => .into table
  | columns names => .columns names
  | row labels => .row (labels.map ρ)
  | returning names => .returning names

/-- A call on an `UPDATE` in the making. -/
inductive Update.Call (ι : Type) where
  | set (column : String) (label : ι)
  | setExpr (column sql : String) (labels : List ι)
  | filter (conjunction : Conjunction) (r : Recipe ι)
  | orderBy (terms : List String)
  | limit (n : UInt64)

namespace Update.Call

def step (ρ : ι → Value) : Call ι → Step
  | set column label => .set column (ρ label)
  | setExpr column sql labels => .setExpr column sql (labels.map ρ)
  | filter conjunction r => .filter conjunction (r.fill ρ)
  | orderBy terms => .orderBy terms
  | limit n => .limit n

def nullLabels : Call ι → List ι
  | filter _ r => r.nullLabels
  | _ => []

end Update.Call

/-- A call on a `DELETE` in the making. -/
inductive Delete.Call (ι : Type) where
  | filter (conjunction : Conjunction) (r : Recipe ι)
  | orderBy (terms : List String)
  | limit (n : UInt64)

namespace Delete.Call

def step (ρ : ι → Value) : Call ι → Step
  | filter conjunction r => .filter conjunction (r.fill ρ)
  | orderBy terms => .orderBy terms
  | limit n => .limit n

def nullLabels : Call ι → List ι
  | filter _ r => r.nullLabels
  | _ => []

end Delete.Call

/-- The calls that build a query of any kind. -/
inductive QueryRecipe (ι : Type) where
  | condition (r : Recipe ι)
  | select (calls : List (Select.Call ι))
  | insert (calls : List (Insert.Call ι))
  | update (table : String) (calls : List (Update.Call ι))
  | delete (table : String) (calls : List (Delete.Call ι))

namespace QueryRecipe

/-- One run: the query is built and brought into its final form. -/
def run (d : Dialect) (ρ : ι → Value) : QueryRecipe ι → Except Error Prepared
  | condition r => toSql d (r.fill ρ)
  | select calls => toSql d (Select.ofSteps (calls.map (·.step ρ)))
  | insert calls => toSql d (Insert.ofSteps (calls.map (·.step ρ)))
  | update table calls => toSql d (Update.ofSteps table (calls.map (·.step ρ)))
  | delete table calls => toSql d (Delete.ofSteps table (calls.map (·.step ρ)))

/-- The labels whose values are looked at for null. -/
def nullLabels : QueryRecipe ι → List ι
  | condition r => r.nullLabels
  | select calls => calls.flatMap (·.nullLabels)
  | insert _ => []
  | update _ calls => calls.flatMap (·.nullLabels)
  | delete _ calls => calls.flatMap (·.nullLabels)

end QueryRecipe
end SqlDialects
