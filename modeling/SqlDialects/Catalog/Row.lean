import SqlDialects.Error
import SqlDialects.Text.Case
import SqlDialects.Value

/-! # Rows of results

A row pairs column names with values. Catalogs disagree about the case of their column names, so names are
looked up in any case. -/

namespace SqlDialects

/-- One row of a result, in the order of its columns. -/
structure Row where
  cells : List (String × Value)

namespace Row

/-- The value under a name: the first one, if several columns have it. -/
def get? (r : Row) (name : String) : Option Value :=
  (r.cells.find? fun cell => Text.sameIgnoringCase cell.1 name).map (·.2)

/-- The value of the first column. -/
def first? (r : Row) : Option Value :=
  r.cells.head?.map (·.2)

/-- The text under a name. -/
def text? (r : Row) (name : String) : Option String :=
  (r.get? name).bind Value.text?

/-- The text under a name that must have one. -/
def text (r : Row) (name : String) : Except Error String :=
  match r.text? name with
  | some s => .ok s
  | none => .error (.invalidValue ("missing column '" ++ name ++ "'"))

/-- The integer under a name. -/
def int? (r : Row) (name : String) : Option Int64 :=
  (r.get? name).bind Value.int?

/-- The integer under a name that must have one. -/
def int (r : Row) (name : String) : Except Error Int64 :=
  match r.int? name with
  | some n => .ok n
  | none => .error (.invalidValue ("column '" ++ name ++ "' is not an integer"))

/-- The truth value under a name. -/
def bool? (r : Row) (name : String) : Option Bool :=
  (r.get? name).bind Value.bool?

/-- The size under a name; what is no size counts as zero. -/
def size (r : Row) (name : String) : UInt32 :=
  match r.int? name with
  | some n => if 0 ≤ n ∧ n ≤ 4294967295 then UInt32.ofNat n.toInt.toNat else 0
  | none => 0

/-- The only value of a row, as an integer. -/
def integer (r : Row) : Except Error Int64 :=
  match r.first?.bind Value.int? with
  | some n => .ok n
  | none => .error (.invalidValue "expected an integer column")

/-- The only value of a row, as a text. -/
def string (r : Row) : Except Error String :=
  match r.first?.bind Value.text? with
  | some s => .ok s
  | none => .error (.invalidValue "expected a text column")

theorem text_eq_ok_iff {r : Row} {name s : String} : r.text name = .ok s ↔ r.text? name = some s := by
  unfold text
  split <;> simp_all

end Row
end SqlDialects
