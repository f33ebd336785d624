import SqlDialects.Query.Condition

/-! # Clauses and the writing of statements

The clauses that several statements share, and the two ways to bring a statement into its final form. -/

namespace SqlDialects

/-- The types that can be written at the end of a bound text. -/
class Writable (α : Type) where
  write : Dialect → α → BoundText → Except Error BoundText

instance : Writable Condition := ⟨Condition.write⟩

/-- The text with placeholders, and the values for them. -/
def toSql {α : Type} [Writable α] (d : Dialect) (a : α) : Except Error Prepared :=
  (Writable.write d a .empty).map fun b => ⟨b.render d, b.args⟩

/-- The text with the values as literals, for logs. -/
def toRawSql {α : Type} [Writable α] (d : Dialect) (a : α) : Except Error String :=
  (Writable.write d a .empty).map fun b => b.renderLiteral d

namespace Clause

/-- A keyword and the conditions after it, or nothing if there are none. Each condition is a group of its own. -/
def conditions (d : Dialect) (keyword : String) (members : List (Conjunction × Condition)) (b : BoundText) :
    Except Error BoundText :=
  if members.isEmpty then .ok b
  else Condition.writeAll d (members.map fun (conjunction, c) => c.tagged conjunction) (b.write keyword)

/-- A keyword and terms with commas between them, or nothing if there are none. -/
def terms (keyword : String) (names : List String) (b : BoundText) : BoundText :=
  if names.isEmpty then b else (b.write keyword).write (", ".intercalate names)

/-- A keyword and a number, or nothing if there is none. -/
def number (keyword : String) (n : Option UInt64) (b : BoundText) : BoundText :=
  match n with
  | some n => b.write (keyword ++ toString n.toNat)
  | none => b

end Clause
end SqlDialects
