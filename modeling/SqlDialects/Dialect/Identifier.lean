import SqlDialects.Dialect
import SqlDialects.Text.Search

/-! # Identifiers

An identifier is written as its parts between dots, each in quotes, a quote inside a part written twice. -/

namespace SqlDialects.Dialect
open Text

/-- One part of an identifier in quotes. -/
def quotedPart (q : Char) (part : List Char) : List Char :=
  q :: double q part ++ [q]

/-- The parts of an identifier in quotes, with dots between them. -/
def quotedIdentifier (q : Char) (cs : List Char) : List Char :=
  List.intercalate ['.'] ((Text.splitAt '.' cs).map (quotedPart q))

/-- An identifier as a dialect writes it: `db.table` becomes a schema and a table. -/
def quoteIdent (d : Dialect) (s : String) : String :=
  String.ofList (quotedIdentifier d.identifierQuote s.toList)

/-- Identifiers in quotes with a separator between them. -/
def joinIdents (d : Dialect) (names : List String) (sep : String) : String :=
  sep.intercalate (names.map d.quoteIdent)

theorem quotedIdentifier_of_notMem {q : Char} {cs : List Char} (h : '.' ∉ cs) :
    quotedIdentifier q cs = quotedPart q cs := by
  have : Text.splitAt '.' cs = [cs] := by
    induction cs with
    | nil => rfl
    | cons c cs ih =>
      simp only [List.mem_cons, not_or] at h
      simp [Text.splitAt, Ne.symm h.1, ih h.2]
  simp [quotedIdentifier, this, List.intercalate]

end SqlDialects.Dialect
