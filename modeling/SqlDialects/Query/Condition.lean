import SqlDialects.Dialect.Identifier
import SqlDialects.Query.Marker

/-! # Conditions

A condition is an expression, a test of a column, or a group of conditions. The members of a group are joined
from left to right, each by its own conjunction, and stand in parentheses as soon as there are two of them, so
no operator of a member can combine with one of the group. -/

namespace SqlDialects

/-- How a condition is joined to the one before it. -/
inductive Conjunction where
  | and
  | or
  deriving DecidableEq, Inhabited

/-- The text between two conditions. -/
def Conjunction.separator : Conjunction → String
  | and => " AND "
  | or => " OR "

/-- A condition of a `WHERE`, `HAVING` or `ON`. -/
inductive Condition where
  /-- A text with a marker for each value. -/
  | expr (sql : String) (args : List Value)
  /-- A column, written as an identifier, and the rest of a test with a marker for each value. -/
  | column (name : String) (tail : String) (args : List Value)
  /-- Conditions with the conjunction before each; the first conjunction is not written. -/
  | group (members : List (Conjunction × Condition))

namespace Condition

/-- A condition without values. -/
def raw (sql : String) : Condition :=
  expr sql []

/-- A condition on its own, to be appended with a conjunction. -/
def tagged (conjunction : Conjunction) (c : Condition) : Conjunction × Condition :=
  (conjunction, group [(.and, c)])

/-- This condition and the other one. -/
def andThen (c other : Condition) : Condition :=
  group [(.and, c), (.and, other)]

/-- This condition or the other one. -/
def orElse (c other : Condition) : Condition :=
  group [(.and, c), (.or, other)]

/-- All of the conditions. -/
def all (cs : List Condition) : Condition :=
  group (cs.map (Conjunction.and, ·))

/-- Any of the conditions. -/
def any (cs : List Condition) : Condition :=
  group (cs.map (Conjunction.or, ·))

def isNull (name : String) : Condition := column name " IS NULL" []

def isNotNull (name : String) : Condition := column name " IS NOT NULL" []

/-- Equality; a test against null asks for null. -/
def eq (name : String) : Value → Condition
  | .null => isNull name
  | v => column name " = ?" [v]

/-- Difference; a test against null asks for anything else. -/
def neq (name : String) : Value → Condition
  | .null => isNotNull name
  | v => column name " != ?" [v]

theorem eq_of_ne_null (name : String) {v : Value} (h : v ≠ .null) : eq name v = column name " = ?" [v] := by
  cases v with
  | null => exact absurd rfl h
  | _ => rfl

theorem neq_of_ne_null (name : String) {v : Value} (h : v ≠ .null) : neq name v = column name " != ?" [v] := by
  cases v with
  | null => exact absurd rfl h
  | _ => rfl

def gt (name : String) (v : Value) : Condition := column name " > ?" [v]

def gte (name : String) (v : Value) : Condition := column name " >= ?" [v]

def lt (name : String) (v : Value) : Condition := column name " < ?" [v]

def lte (name : String) (v : Value) : Condition := column name " <= ?" [v]

def like (name : String) (v : Value) : Condition := column name " LIKE ?" [v]

def notLike (name : String) (v : Value) : Condition := column name " NOT LIKE ?" [v]

/-- As many markers with commas between them. -/
def markers (n : Nat) : String :=
  ",".intercalate (List.replicate n "?")

/-- Membership; nothing is a member of the empty list. -/
def inList (name : String) (vs : List Value) : Condition :=
  if vs.isEmpty then raw "1 = 0" else column name (" IN (" ++ markers vs.length ++ ")") vs

/-- Absence; everything is absent from the empty list. -/
def notInList (name : String) (vs : List Value) : Condition :=
  if vs.isEmpty then raw "1 = 1" else column name (" NOT IN (" ++ markers vs.length ++ ")") vs

mutual

/-- Writes a condition at the end of a text. -/
def write (d : Dialect) : Condition → BoundText → Except Error BoundText
  | expr sql args, b => Marker.write sql args b
  | column name tail args, b => Marker.write tail args (b.write (d.quoteIdent name))
  | group members, b => writeMembers d (members.length > 1) true members b

/-- Writes the members of a group, in parentheses or bare, the first one without its conjunction. -/
def writeMembers (d : Dialect) (wrapped first : Bool) :
    List (Conjunction × Condition) → BoundText → Except Error BoundText
  | [], b => .ok b
  | (conjunction, c) :: rest, b => do
    let b := if first then b else b.write conjunction.separator
    let b ← write d c (if wrapped then b.write "(" else b)
    writeMembers d wrapped false rest (if wrapped then b.write ")" else b)

end

/-- Writes a list of conditions, as a group of them would be. -/
def writeAll (d : Dialect) (members : List (Conjunction × Condition)) (b : BoundText) : Except Error BoundText :=
  writeMembers d (members.length > 1) true members b

theorem write_group (d : Dialect) (members : List (Conjunction × Condition)) (b : BoundText) :
    write d (group members) b = writeAll d members b := by
  simp [write, writeAll]

end Condition
end SqlDialects
