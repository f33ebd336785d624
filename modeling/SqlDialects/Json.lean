/-! # JSON values

The data that JSON text stands for. Integers are kept apart from all other numbers. -/

namespace SqlDialects

/-- A JSON value. The members of an object have different names. -/
inductive Json where
  | null
  | bool (b : Bool)
  | integer (n : Int)
  | decimal (x : Float)
  | string (s : String)
  | array (items : List Json)
  | object (members : List (String × Json))
  deriving Inhabited

namespace Json

def bool? : Json → Option Bool
  | bool b => some b
  | _ => none

def string? : Json → Option String
  | string s => some s
  | _ => none

/-- A non-negative integer of 32 bits. -/
def size? : Json → Option UInt32
  | integer n => if 0 ≤ n ∧ n ≤ 4294967295 then some (UInt32.ofNat n.toNat) else none
  | _ => none

/-- An integer of 64 bits. -/
def int64? : Json → Option Int64
  | integer n => if -9223372036854775808 ≤ n ∧ n ≤ 9223372036854775807 then some (Int64.ofInt n) else none
  | _ => none

/-- Any number. -/
def float? : Json → Option Float
  | integer n => some (Float.ofInt n)
  | decimal x => some x
  | _ => none

/-- A list of which each item can be read. -/
def list? {α : Type} (read : Json → Option α) : Json → Option (List α)
  | array items => items.mapM read
  | _ => none

/-- Null, or what can be read. -/
def nullable? {α : Type} (read : Json → Option α) : Json → Option (Option α)
  | null => some none
  | j => (read j).map some

/-- What is written for something that may be absent. -/
def ofOption {α : Type} (write : α → Json) : Option α → Json
  | some a => write a
  | none => null

def ofSize (n : UInt32) : Json :=
  integer n.toNat

/-- What is written for a double: null for one that is infinite or no number. -/
def ofFloat (x : Float) : Json :=
  if x.isFinite then decimal x else null

/-- The fields of a record: an object, or an array of the values of all fields in their order. -/
def record? (names : List String) : Json → Option (List (String × Json))
  | object members => some members
  | array items => if items.length = names.length then some (names.zip items) else none
  | _ => none

/-- A field that must be there. -/
def required? {α : Type} (read : Json → Option α) (fields : List (String × Json)) (name : String) : Option α :=
  (fields.lookup name).bind read

/-- A field that may be absent or null. -/
def optional? {α : Type} (read : Json → Option α) (fields : List (String × Json)) (name : String) :
    Option (Option α) :=
  match fields.lookup name with
  | some j => nullable? read j
  | none => some none

/-- A choice, and what belongs to it: the bare name of the choice, or an object with its one name. -/
def choice? : Json → Option (String × Json)
  | string s => some (s, null)
  | object [(name, j)] => some (name, j)
  | _ => none

@[simp] theorem bool?_bool (b : Bool) : (bool b).bool? = some b := rfl

@[simp] theorem string?_string (s : String) : (string s).string? = some s := rfl

@[simp] theorem size?_ofSize (n : UInt32) : (ofSize n).size? = some n := by
  have h : n.toNat < 4294967296 := n.toNat_lt
  have h' : (0 : Int) ≤ n.toNat ∧ (n.toNat : Int) ≤ 4294967295 := by omega
  simp only [ofSize, size?, h', and_self, if_true, Int.toNat_natCast, UInt32.ofNat_toNat]

end Json
end SqlDialects
