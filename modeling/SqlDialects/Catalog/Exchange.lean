import SqlDialects.Catalog.Row

/-! # Exchanges with a database

A database answers calls; each answer may depend on the calls before it, and any call may fail. An exchange
makes calls one after the other and has a result or a failure in the end; either way the calls made are kept. -/

namespace SqlDialects

/-- What a call asks for: to be carried out, or to be answered with rows. -/
inductive CallKind where
  | execute
  | query
  deriving DecidableEq

/-- One call of a database. -/
structure Call where
  kind : CallKind
  sql : String
  args : List Value

/-- A database, as the answers to a call after the calls before it. -/
structure Connection where
  execute : List Call → Call → Except Error Unit
  query : List Call → Call → Except Error (List Row)

/-- Why an exchange ends without a result. -/
inductive Failure where
  /-- An error that the caller is told. -/
  | error (e : Error)
  /-- A cut of a text from one place to a place before it. It ends the program, so nobody is told. -/
  | reversedCut
  deriving DecidableEq

/-- From a database and the calls made so far to the result and all calls made then. -/
def Exchange (α : Type) : Type :=
  Connection → List Call → Except Failure α × List Call

namespace Exchange
variable {α β : Type}

/-- A result without a call. -/
def done (a : α) : Exchange α :=
  fun _ calls => (.ok a, calls)

/-- A failure without a call. -/
def fail (f : Failure) : Exchange α :=
  fun _ calls => (.error f, calls)

/-- One exchange after another; a failure ends both. -/
def andThen (x : Exchange α) (f : α → Exchange β) : Exchange β :=
  fun db calls => match x db calls with
    | (.ok a, calls) => f a db calls
    | (.error e, calls) => (.error e, calls)

instance : Monad Exchange where
  pure := done
  bind := andThen

/-- A computation without calls. -/
def ofExcept : Except Error α → Exchange α
  | .ok a => done a
  | .error e => fail (.error e)

instance : MonadLift (Except Error) Exchange := ⟨ofExcept⟩

/-- A computation without calls that may also cut a text in reverse. -/
def ofResult : Except Failure α → Exchange α
  | .ok a => done a
  | .error f => fail f

/-- The first of some rows, or the error that something was not found. -/
def first (rows : List Row) (what : String) : Exchange Row :=
  match rows with
  | r :: _ => done r
  | [] => fail (.error (.notFound what))

/-- Adds what was being done to an error. -/
def inContext (doing : String) (x : Exchange α) : Exchange α :=
  fun db calls => match x db calls with
    | (.error (.error e), calls) => (.error (.error (.context doing e)), calls)
    | other => other

/-- Has a statement carried out. -/
def execute (sql : String) : Exchange Unit :=
  fun db calls =>
    let call : Call := ⟨.execute, sql, []⟩
    match db.execute calls call with
    | .ok () => (.ok (), calls ++ [call])
    | .error e => (.error (.error e), calls ++ [call])

/-- Asks for rows. -/
def query (sql : String) (args : List Value) : Exchange (List Row) :=
  fun db calls =>
    let call : Call := ⟨.query, sql, args⟩
    match db.query calls call with
    | .ok rows => (.ok rows, calls ++ [call])
    | .error e => (.error (.error e), calls ++ [call])

/-- Asks for rows and reads each of them. -/
def load (read : Row → Except Error α) (sql : String) (args : List Value) : Exchange (List α) := do
  let rows ← query sql args
  ofExcept (rows.mapM read)

theorem pure_eq (a : α) : (pure a : Exchange α) = done a := rfl

theorem bind_eq (x : Exchange α) (f : α → Exchange β) : x >>= f = andThen x f := rfl

theorem andThen_ok {x : Exchange α} {f : α → Exchange β} {db : Connection} {calls calls' : List Call} {a : α}
    (h : x db calls = (.ok a, calls')) : andThen x f db calls = f a db calls' := by
  simp [andThen, h]

theorem andThen_error {x : Exchange α} {f : α → Exchange β} {db : Connection} {calls calls' : List Call}
    {e : Failure} (h : x db calls = (.error e, calls')) : andThen x f db calls = (.error e, calls') := by
  simp [andThen, h]

end Exchange
end SqlDialects
