import SqlDialects.Catalog.ValueList
import SqlDialects.Text.Word

/-! # Checks that stand for enumerations

Where a dialect has no enumerations, a column of that kind is a string with a check. The catalog holds the check
as text, PostgreSQL in a form of its own and SQLite as it was written, and the values are read back from there. -/

namespace SqlDialects.Catalog.EnumCheck
open Text

/-- The rest of a text after a beginning. -/
def after? (beginning : String) (cs : List Char) : Option (List Char) :=
  if beginning.toList.isPrefixOf cs then some (cs.drop beginning.length) else none

/-- A text without an ending. -/
def before? (ending : String) (cs : List Char) : Option (List Char) :=
  (after? (String.ofList ending.toList.reverse) cs.reverse).map List.reverse

/-- One or more word characters at the start, and the rest. -/
def word? (cs : List Char) : Option (List Char × List Char) :=
  let word := cs.takeWhile isWord
  if word.isEmpty then none else some (word, cs.dropWhile isWord)

/-- The column and the list of a check as PostgreSQL writes it. The list stands on one line. -/
def postgresParts? (cs : List Char) : Option (List Char × List Char) := do
  let (column, rest) ← word? (← after? "CHECK (((" cs)
  let body ← before? "])::text[])))" (← after? ")::text = ANY ((ARRAY[" rest)
  if body.contains '\n' then none else some (column, body)

/-- A value of the list, without its quotes and its cast. What does not begin with a quote is no value. -/
def postgresValue? (item : List Char) : Option String :=
  match trim item with
  | '\'' :: rest =>
    let content := match cutLast? ['\'', ':', ':'] rest with
      | some (content, _) => content
      | none => rest
    some (String.ofList (undouble '\'' content))
  | _ => none

/-- The values that a check of PostgreSQL allows in a column. -/
def postgresValues? (check column : String) : Option (List String) :=
  match postgresParts? check.toList with
  | some (name, body) =>
    if String.ofList name = column then some ((Text.splitAt ',' body).filterMap postgresValue?) else none
  | none => none

/-- The column and the list of a check of SQLite at the start of a text. The list ends before the last two
closing parentheses of the line. -/
def sqliteHead? (cs : List Char) : Option (List Char × List Char) := do
  let (column, rest) ← word? (← after? "check (\"" cs)
  let rest ← after? "\" in (" rest
  let (body, _) ← cutLast? [')', ')'] (rest.takeWhile (· != '\n'))
  some (column, body)

/-- The column and the list of the first check of SQLite in a text. -/
def sqliteParts? : List Char → Option (List Char × List Char)
  | [] => none
  | c :: cs =>
    match sqliteHead? (c :: cs) with
    | some parts => some parts
    | none => sqliteParts? cs

/-- The values that the first check on a line of SQLite allows, if it is for the column. -/
def sqliteValues? (line column : String) : Option (List String) :=
  match sqliteParts? line.toList with
  | some (name, body) => if String.ofList name = column then some (splitList (· = '\'') body) else none
  | none => none

end SqlDialects.Catalog.EnumCheck
