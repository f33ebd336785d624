/-! # The case of letters

Names are compared without regard to the case of the letters from A to Z. All other letters differ from their
counterparts. -/

namespace SqlDialects.Text

/-- Whether two texts are the same but for the case of ASCII letters. -/
def sameIgnoringCase (a b : String) : Bool :=
  a.toLower == b.toLower

theorem toList_toLower (s : String) : s.toLower.toList = s.toList.map Char.toLower :=
  String.toList_map

@[simp] theorem sameIgnoringCase_self (a : String) : sameIgnoringCase a a = true := by
  simp [sameIgnoringCase]

end SqlDialects.Text
