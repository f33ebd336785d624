/-! # Blank characters and trimming

The blank characters are those with the property `White_Space`. `trim` cuts them off both ends of a
text, `trimEnds` cuts off any other class of characters. -/

namespace SqlDialects.Text

/-- Membership of a character in a list of closed ranges of code points. -/
def inRanges (ranges : List (Nat × Nat)) (c : Char) : Bool :=
  ranges.any fun r => r.1 ≤ c.toNat && c.toNat ≤ r.2

/-- The ranges of the property `White_Space`. -/
def blankRanges : List (Nat × Nat) :=
  [(0x09, 0x0D), (0x20, 0x20), (0x85, 0x85), (0xA0, 0xA0), (0x1680, 0x1680), (0x2000, 0x200A),
   (0x2028, 0x2029), (0x202F, 0x202F), (0x205F, 0x205F), (0x3000, 0x3000)]

/-- Spaces, tabs, line breaks and their wider relatives. -/
def isBlank (c : Char) : Bool :=
  inRanges blankRanges c

/-- Drops the longest run of characters in the class at the end of a text. -/
def dropEndWhile (p : Char → Bool) (cs : List Char) : List Char :=
  (cs.reverse.dropWhile p).reverse

/-- Drops the characters of a class at both ends of a text. -/
def trimEnds (p : Char → Bool) (cs : List Char) : List Char :=
  dropEndWhile p (cs.dropWhile p)

/-- Drops the blanks at both ends of a text. -/
def trim (cs : List Char) : List Char :=
  trimEnds isBlank cs

/-- Drops the blanks at both ends of a string. -/
def trimmed (s : String) : String :=
  String.ofList (trim s.toList)

@[simp] theorem dropEndWhile_nil (p : Char → Bool) : dropEndWhile p [] = [] := rfl

@[simp] theorem trimEnds_nil (p : Char → Bool) : trimEnds p [] = [] := rfl

theorem isBlank_space : isBlank ' ' = true := by decide

/-- What ends in a character outside the class keeps its end. -/
theorem dropEndWhile_append_singleton {p : Char → Bool} {c : Char} (h : p c = false) (cs : List Char) :
    dropEndWhile p (cs ++ [c]) = cs ++ [c] := by
  simp [dropEndWhile, h]

end SqlDialects.Text
