import SqlDialects.Number.Reading
import SqlDialects.Text.Blank
import SqlDialects.Value.Timestamp

/-! # Values

A value is what a statement binds to a place and what a row of a result holds. The three readings `text?`,
`int?` and `bool?` accept the forms in which different catalogs report the same fact. -/

namespace SqlDialects

/-- A value bound to a place in a statement or found in a row. -/
inductive Value where
  | null
  | bool (b : Bool)
  | int (n : Int64)
  | float (x : Float)
  | text (s : String)
  | blob (bytes : List UInt8)
  | time (t : Timestamp)
  deriving Inhabited

namespace Value
open Text Number

def isNull : Value → Bool
  | null => true
  | _ => false

/-- The value as text; bytes have a text if they are well-formed UTF-8. -/
def text? : Value → Option String
  | null => none
  | bool b => some (if b then "true" else "false")
  | int n => some (intText n)
  | float x => some (floatText x)
  | text s => some s
  | blob bytes => String.fromUTF8? (ByteArray.mk bytes.toArray)
  | time t => some t.text

/-- The value as an integer: a float is cut towards zero and held within 64 bits, a text is read. -/
def int? : Value → Option Int64
  | int n => some n
  | bool b => some (if b then 1 else 0)
  | float x => some x.toInt64
  | text s => readInt64? (trim s.toList)
  | _ => none

/-- The words for true. -/
def trueWords : List String := ["t", "true", "yes", "y", "1"]

/-- The words for false. -/
def falseWords : List String := ["f", "false", "no", "n", "0"]

/-- The value as a truth value. -/
def bool? : Value → Option Bool
  | bool b => some b
  | int n => some (n != 0)
  | text s =>
    let word := (trimmed s).toLower
    if trueWords.contains word then some true
    else if falseWords.contains word then some false
    else none
  | _ => none

@[simp] theorem isNull_iff (v : Value) : v.isNull = true ↔ v = null := by
  cases v <;> simp [isNull]

end Value

/-- The types whose members can be bound. -/
class ToValue (α : Type) where
  toValue : α → Value

export ToValue (toValue)

instance : ToValue Value := ⟨id⟩
instance : ToValue Bool := ⟨.bool⟩
instance : ToValue Int64 := ⟨.int⟩
instance : ToValue Int32 := ⟨fun n => .int n.toInt64⟩
instance : ToValue Int16 := ⟨fun n => .int n.toInt64⟩
instance : ToValue UInt32 := ⟨fun n => .int (Int64.ofNat n.toNat)⟩
instance : ToValue UInt16 := ⟨fun n => .int (Int64.ofNat n.toNat)⟩
instance : ToValue UInt8 := ⟨fun n => .int (Int64.ofNat n.toNat)⟩
instance : ToValue Float := ⟨.float⟩
instance : ToValue Float32 := ⟨fun x => .float x.toFloat⟩
instance : ToValue String := ⟨.text⟩
instance : ToValue (List UInt8) := ⟨.blob⟩
instance : ToValue Timestamp := ⟨.time⟩

instance {α : Type} [ToValue α] : ToValue (Option α) where
  toValue
    | some a => toValue a
    | none => .null

end SqlDialects
