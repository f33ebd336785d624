import SqlDialects.Number.Reading
import SqlDialects.Schema.DefaultValue
import SqlDialects.Text.Case
import SqlDialects.Text.Search

/-! # Defaults in catalogs

A catalog reports the default of a column as SQL text. A string literal, with or without a cast after it, and a
number are read as strings, the words for the current moment as such, and all else is kept as an expression. -/

namespace SqlDialects.Catalog
open Text

/-- A default as read from a catalog, and whether it is the current moment. -/
structure ReadDefault where
  value : Option DefaultValue
  useCurrent : Bool

/-- The content of a string literal that begins after its opening quote: it ends where the last cast of a literal
begins, or else at the last quote. -/
def literalContent? (cs : List Char) : Option (List Char) :=
  match cutLast? ['\'', ':', ':'] cs with
  | some (content, _) => some (undouble '\'' content)
  | none => (cutLast? ['\''] cs).map fun (content, _) => undouble '\'' content

/-- Reads the default of a column. -/
def readDefault (text : String) : ReadDefault :=
  let raw := trimmed text
  let upper := raw.toUpper
  if raw.isEmpty || sameIgnoringCase raw "null" then ⟨none, false⟩
  else if "CURRENT_TIMESTAMP".toList.isPrefixOf upper.toList || upper = "NOW()" then
    ⟨some (.expression "CURRENT_TIMESTAMP"), true⟩
  else
    let quoted := match raw.toList with
      | '\'' :: rest => literalContent? rest
      | _ => none
    match quoted with
    | some content => ⟨some (.string (String.ofList content)), false⟩
    | none =>
      if (Number.readLiteral? raw.toList).isSome then ⟨some (.string raw), false⟩
      else ⟨some (.expression raw), false⟩

end SqlDialects.Catalog
