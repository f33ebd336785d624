/-! # Errors

An error is a cause, wrapped in any number of contexts that say what was being done. -/

namespace SqlDialects

/-- Why a statement could not be written or a catalog could not be read. -/
inductive Error where
  /-- The dialect has no type for the named abstract type. -/
  | unsupportedDataType (name : String)
  /-- The dialect has no statement for the request. -/
  | unsupportedFeature (feature : String)
  /-- A table or a column is absent. -/
  | notFound (what : String)
  /-- A text has another number of places than there are values to bind. -/
  | placeholderCount (expected actual : Nat)
  /-- A row of a catalog makes no sense. -/
  | invalidValue (what : String)
  /-- A statement names no table. -/
  | tableNotSpecified
  /-- A statement names no column. -/
  | columnNotSpecified
  /-- The database refused a statement. -/
  | query (message : String)
  /-- Another error, with what was being done. -/
  | context (doing : String) (inner : Error)
  deriving DecidableEq, Inhabited

namespace Error

/-- The text shown to the user, outermost context first. -/
def message : Error → String
  | unsupportedDataType name => "unsupported data type '" ++ name ++ "'"
  | unsupportedFeature feature => "not supported: " ++ feature
  | notFound what => "not found: " ++ what
  | placeholderCount expected actual =>
    "wrong placeholder count: expected " ++ toString expected ++ ", got " ++ toString actual
  | invalidValue what => "invalid value: " ++ what
  | tableNotSpecified => "table not specified"
  | columnNotSpecified => "column not specified"
  | query message => "query failed: " ++ message
  | context doing inner => doing ++ ": " ++ inner.message

/-- The cause under all contexts. -/
def root : Error → Error
  | context _ inner => inner.root
  | e => e

@[simp] theorem root_context (doing : String) (e : Error) : (context doing e).root = e.root := rfl

theorem root_root (e : Error) : e.root.root = e.root := by
  induction e <;> simp_all [root]

end Error

/-- Adds what was being done to a failure. -/
def inContext {α : Type} (doing : String) : Except Error α → Except Error α
  | .ok a => .ok a
  | .error e => .error (.context doing e)

end SqlDialects
