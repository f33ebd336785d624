import SqlDialects.Dialect.Literal

/-! # Default values of columns -/

namespace SqlDialects

/-- What a column holds where an insertion names no value for it. -/
inductive DefaultValue where
  | null
  | boolean (b : Bool)
  | integer (n : Int64)
  | float (x : Float)
  | string (s : String)
  /-- An SQL expression, written as it is. -/
  | expression (sql : String)
  deriving Inhabited

namespace DefaultValue

/-- Equality of defaults. Floats compare as numbers, so not-a-number differs from itself and both zeros agree. -/
def same : DefaultValue → DefaultValue → Bool
  | null, null => true
  | boolean b, boolean b' => b == b'
  | integer n, integer n' => n == n'
  | float x, float x' => x == x'
  | string s, string s' => s == s'
  | expression s, expression s' => s == s'
  | _, _ => false

instance : BEq DefaultValue := ⟨same⟩

/-- The text of the literal; null and expressions have none. -/
def literalText? : DefaultValue → Option String
  | null | expression _ => none
  | boolean b => some (if b then "1" else "0")
  | integer n => some (Number.intText n)
  | float x => some (Number.floatText x)
  | string s => some s

/-- A default as a dialect writes it: a string for every literal, and an expression as it is. -/
def render (d : Dialect) : DefaultValue → String
  | expression sql => sql
  | v => match v.literalText? with
    | some text => d.quoteString text
    | none => "NULL"

end DefaultValue
end SqlDialects
