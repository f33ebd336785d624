import SqlDialects.Catalog.Reading
import SqlDialects.Definition.Alteration
import SqlDialects.Definition.Database

/-! # Sessions

A session reads tables from a database, hands them to a caller to change, and has the collected commands carried
out in order. There is no transaction: a command that fails stops the run, and those before it stay carried out. -/

namespace SqlDialects.Session

/-- What is being done when a command is carried out. -/
def doing (t : Table) (c : Command) : String :=
  c.kind ++ " on table '" ++ t.name ++ "'"

/-- The texts of some commands, up to the first that has none. -/
def textsOf (d : Dialect) (t : Table) (commands : List Command) : Except Error (List String) :=
  commands.mapM fun c => SqlDialects.inContext (doing t c) (c.text d t)

/-- The texts of all collected commands, and the table without its commands. -/
def compileCommands (d : Dialect) (t : Table) : Except Error (List String) × Table :=
  (textsOf d t.withoutCommands t.commands, t.withoutCommands)

/-- Carries out commands one after the other. -/
def applyAll (d : Dialect) (t : Table) : List Command → Exchange Unit
  | [] => pure ()
  | c :: rest => do
    let sql ← SqlDialects.inContext (doing t c) (c.text d t)
    Exchange.inContext (doing t c) (Exchange.execute sql)
    applyAll d t rest

/-- Carries out the collected commands of a table and leaves it without commands. -/
def apply (d : Dialect) (t : Table) : Exchange Table := do
  applyAll d t.withoutCommands t.commands
  return t.withoutCommands

/-- Whether there is a table of a name. -/
def tableExists (d : Dialect) (name : String) (schema : Option String) : Exchange Bool := do
  let counts ← Exchange.load Row.integer (Catalog.tableExistsSql d name schema) []
  return (counts.head?.getD 0) > 0

/-- Reads a table with its columns. -/
def getTable (d : Dialect) (name : String) (schema : Option String) : Exchange Table :=
  Exchange.inContext ("loading table '" ++ name ++ "'") (Catalog.loadTable d name schema)

/-- Reads the columns of a table. -/
def getColumns (d : Dialect) (name : String) (schema : Option String) : Exchange (List TableColumn) :=
  Exchange.inContext ("loading columns of '" ++ name ++ "'") (Catalog.loadColumns d name schema)

/-- Reads the constraints of a table. -/
def getConstraints (d : Dialect) (name : String) (schema : Option String) : Exchange TableConstraints :=
  Exchange.inContext ("loading constraints of '" ++ name ++ "'") (Catalog.loadConstraints d name schema)

/-- Lists the tables of some schemas. -/
def getAllTables (d : Dialect) (schemas : List String) : Exchange (List String) :=
  Exchange.load Row.string (Database.listTables d schemas) []

/-- A table about to be created, with the command to create it. -/
def newTable (name : String) : Table :=
  (Table.declare name).push .createTable

/-- Creates a table that a caller declares. Its other commands follow the creation. -/
def createTable (d : Dialect) (name : String) (handler : Table → Table) : Exchange Table :=
  apply d (handler (newTable name))

/-- Changes a table that exists. -/
def alterTable (d : Dialect) (name : String) (handler : Table → Table) : Exchange Table := do
  let t ← getTable d name none
  apply d (handler t)

/-- Drops a table. -/
def drop (d : Dialect) (name : String) : Exchange Unit :=
  Exchange.execute ((Statement.dropTable false name).render d)

/-- Drops a table if there is one of the name. -/
def dropIfExists (d : Dialect) (name : String) : Exchange Unit :=
  Exchange.execute ((Statement.dropTable true name).render d)

def enableForeignKeys (d : Dialect) : Exchange Unit :=
  Exchange.execute (Database.enableForeignKeys d)

def disableForeignKeys (d : Dialect) : Exchange Unit :=
  Exchange.execute (Database.disableForeignKeys d)

/-- Writes the file of the database anew. -/
def rebuild (d : Dialect) : Exchange Unit := do
  let sql ← Database.rebuild d
  Exchange.execute sql

end SqlDialects.Session
