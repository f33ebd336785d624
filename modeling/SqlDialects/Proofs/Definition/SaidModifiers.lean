import SqlDialects.Definition.Modifier

/-! # What the modifiers of a column say

Each modifier stands among those of a column exactly if the dialect writes the attribute and the column has it. -/

namespace SqlDialects.Modifier

/-- A dialect says a modifier of a column. -/
def Holds (d : Dialect) (c : Column) : Modifier → Prop
  | unsigned => d = .mysql ∧ c.unsigned = true
  | characterSet name => d = .mysql ∧ c.charset = some name
  | collate name => d ≠ .sqlite ∧ c.collation = some name
  | virtualAs sql => d ≠ .sqlite ∧ c.virtualAs = some sql
  | storedAs sql => d ≠ .sqlite ∧ c.storedAs = some sql
  | null => c.nullable = true ∧ (d = .mysql → c.virtualAs = none ∧ c.storedAs = none)
  | notNull => c.nullable = false
  | srid n => d = .mysql ∧ c.srid > 0 ∧ n = c.srid
  | default value => defaultClause? d c = some value
  | autoIncrement => d = .mysql ∧ c.countsUp = true
  | comment text => d = .mysql ∧ c.comment = some text
  | after column => d = .mysql ∧ c.after = some column
  | first => d = .mysql ∧ c.first = true
  | countingKey => False

variable {d : Dialect} {c : Column} {m : Modifier}

theorem mem_nullability_iff :
    m ∈ nullability d c ↔ m = .null ∧ null.Holds d c ∨ m = .notNull ∧ notNull.Holds d c := by
  unfold nullability Holds
  cases c.nullable with
  | false => simp
  | true => cases d <;> cases c.virtualAs <;> cases c.storedAs <;> simp

theorem mem_ofColumn_iff : m ∈ ofColumn d c ↔ m.Holds d c := by
  cases d <;> cases m <;> simp [ofColumn, mysql, postgres, sqlite, mem_nullability_iff, Holds]

end SqlDialects.Modifier
