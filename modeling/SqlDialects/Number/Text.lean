import SqlDialects.Number.Shortest

/-! # Numbers as text

A double is written with the fewest digits that read back, always positionally, without a fraction if it is
whole. A tie between two shortest decimals goes away from zero. -/

namespace SqlDialects.Number

/-- The digits of a natural number. -/
def natText (n : Nat) : List Char :=
  Nat.toDigits 10 n

/-- A decimal written positionally: zeros fill the gap between the digits and the point, and a fraction ends in
its last digit other than zero. -/
def Decimal.positional (d : Decimal) : List Char :=
  let digits := natText d.digits
  if 0 ≤ d.exponent then digits ++ List.replicate d.exponent.toNat '0'
  else
    let places := (-d.exponent).toNat
    let padded := List.replicate (places + 1 - digits.length) '0' ++ digits
    let whole := padded.take (padded.length - places)
    let fraction := (padded.drop (padded.length - places)).reverse.dropWhile (· = '0') |>.reverse
    if fraction.isEmpty then whole else whole ++ '.' :: fraction

/-- A double as text: `1`, `0.1`, `-0`, `NaN`, `inf`, `-inf`. -/
def floatText (x : Float) : String :=
  let bits := x.toBits
  let sign := if bits >>> 63 = 1 then ['-'] else []
  let magnitude := bits &&& 0x7FFFFFFFFFFFFFFF
  if magnitude > 0x7FF0000000000000 then "NaN"
  else if magnitude = 0x7FF0000000000000 then String.ofList (sign ++ "inf".toList)
  else if magnitude = 0 then String.ofList (sign ++ ['0'])
  else String.ofList (sign ++ (Binary.ofBits magnitude).shortest.positional)

/-- A 64-bit integer as text, with a minus sign if negative. -/
def intText (n : Int64) : String :=
  toString n.toInt

/-- A number padded with zeros to a least width. -/
def paddedText (width n : Nat) : List Char :=
  List.replicate (width - (natText n).length) '0' ++ natText n

theorem natText_ne_nil (n : Nat) : natText n ≠ [] := by
  have := Nat.length_toDigits_pos (b := 10) (n := n)
  intro h
  simp [natText] at h

theorem isDigit_of_mem_natText {n : Nat} {c : Char} (h : c ∈ natText n) : c.isDigit = true :=
  Nat.isDigit_of_mem_toDigits (by decide) (by decide) h

/-- A natural number is written as its digits, also as an integer. -/
theorem toList_toString_ofNat (n : Nat) : (toString (Int.ofNat n)).toList = natText n :=
  Nat.toList_repr

/-- A negative integer is written as a minus sign and the digits of its magnitude. -/
theorem toList_toString_negSucc (n : Nat) : (toString (Int.negSucc n)).toList = '-' :: natText (n + 1) := by
  rw [natText, ← Nat.toList_repr]
  exact String.toList_append

theorem ne_of_isDigit {c o : Char} (h : c.isDigit = true) (ho : o.isDigit = false) : c ≠ o := by
  rintro rfl
  exact absurd (h.symm.trans ho) nofun

end SqlDialects.Number
