import SqlDialects.Text.Blank
import SqlDialects.Text.Search

/-! # Lists of values in catalogs -/

namespace SqlDialects.Catalog
open Text

/-- Items between commas, without the blanks and then without the quotes around them. Empty items are left out. -/
def splitList (isQuote : Char → Bool) (cs : List Char) : List String :=
  (((Text.splitAt ',' cs).map fun item => trimEnds isQuote (trim item)).filter (!·.isEmpty)).map String.ofList

end SqlDialects.Catalog
