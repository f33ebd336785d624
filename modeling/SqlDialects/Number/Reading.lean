import SqlDialects.Number.Text

/-! # Reading numbers

An integer is an optional sign and at least one digit. A decimal literal is an optional sign, digits with at
most one point among or around them, at least one digit, and an optional exponent; the words for infinity and
for not-a-number are literals too, in any case. Nothing else is skipped, so a blank makes a text no number. -/

namespace SqlDialects.Number

/-- The value of a digit in front of the number read so far. -/
def appendDigit (n : Nat) (c : Char) : Nat :=
  10 * n + (c.toNat - '0'.toNat)

/-- The number that a run of digits stands for. -/
def digitsValue (cs : List Char) : Nat :=
  cs.foldl appendDigit 0

/-- A sign in front, `true` for minus, and the rest. -/
def takeSign : List Char → Bool × List Char
  | '-' :: cs => (true, cs)
  | '+' :: cs => (false, cs)
  | cs => (false, cs)

/-- Reads an integer of any size. -/
def readInt? (cs : List Char) : Option Int :=
  let (negative, digits) := takeSign cs
  if !digits.isEmpty && digits.all Char.isDigit then
    let n : Int := digitsValue digits
    some (if negative then -n else n)
  else none

/-- Reads an integer that fits in 64 bits. -/
def readInt64? (cs : List Char) : Option Int64 :=
  match readInt? cs with
  | some n => if Int64.minValue.toInt ≤ n ∧ n ≤ Int64.maxValue.toInt then some (Int64.ofInt n) else none
  | none => none

/-- What a decimal literal stands for. -/
inductive Literal where
  | finite (negative : Bool) (magnitude : Decimal)
  | infinite (negative : Bool)
  | notANumber

/-- Reads an exponent, the empty text standing for none. -/
def readExponent? : List Char → Option Int
  | [] => some 0
  | c :: cs => if c = 'e' ∨ c = 'E' then readInt? cs else none

/-- Reads the digits, the point and the exponent of a finite literal. -/
def readMagnitude? (cs : List Char) : Option Decimal :=
  let whole := cs.takeWhile Char.isDigit
  let rest := cs.dropWhile Char.isDigit
  let (fraction, tail) := match rest with
    | '.' :: after => (after.takeWhile Char.isDigit, after.dropWhile Char.isDigit)
    | _ => ([], rest)
  if whole.isEmpty && fraction.isEmpty then none
  else (readExponent? tail).map fun e => ⟨digitsValue (whole ++ fraction), e - fraction.length⟩

/-- Reads a decimal literal. -/
def readLiteral? (cs : List Char) : Option Literal :=
  let (negative, body) := takeSign cs
  let word := String.ofList (body.map Char.toLower)
  if word = "inf" ∨ word = "infinity" then some (.infinite negative)
  else if word = "nan" then some .notANumber
  else (readMagnitude? body).map (.finite negative)

/-- The double nearest to a decimal. Beyond the range of doubles the answer is infinity, below it zero; the
bounds keep the power of ten small. -/
def Decimal.toFloat (d : Decimal) : Float :=
  let length := (Nat.toDigits 10 d.digits).length
  if d.digits = 0 ∨ (length : Int) + d.exponent < -400 then 0.0
  else if 400 < (length : Int) + d.exponent then 1.0 / 0.0
  else Float.ofScientific d.digits (d.exponent < 0) d.exponent.natAbs

/-- The double nearest to a literal. -/
def Literal.toFloat : Literal → Float
  | .finite negative magnitude => if negative then -magnitude.toFloat else magnitude.toFloat
  | .infinite negative => if negative then -(1.0 / 0.0) else 1.0 / 0.0
  | .notANumber => 0.0 / 0.0

/-- Reads a double. -/
def readFloat? (cs : List Char) : Option Float :=
  (readLiteral? cs).map Literal.toFloat

/-- The single-precision number nearest to a decimal. -/
def Decimal.toFloat32 (d : Decimal) : Float32 :=
  let length := (Nat.toDigits 10 d.digits).length
  if d.digits = 0 ∨ (length : Int) + d.exponent < -400 then 0.0
  else if 400 < (length : Int) + d.exponent then 1.0 / 0.0
  else Float32.ofScientific d.digits (d.exponent < 0) d.exponent.natAbs

/-- The single-precision number nearest to a literal. -/
def Literal.toFloat32 : Literal → Float32
  | .finite negative magnitude => if negative then -magnitude.toFloat32 else magnitude.toFloat32
  | .infinite negative => if negative then -(1.0 / 0.0) else 1.0 / 0.0
  | .notANumber => 0.0 / 0.0

/-- Reads a single-precision number. -/
def readFloat32? (cs : List Char) : Option Float32 :=
  (readLiteral? cs).map Literal.toFloat32

theorem digitsValue_natText (n : Nat) : digitsValue (natText n) = n :=
  Nat.ofDigitChars_ten_toDigits

/-- Digits without a sign are read as they are. -/
theorem takeSign_natText (n : Nat) : takeSign (natText n) = (false, natText n) := by
  obtain ⟨c, cs, hdigits⟩ := List.exists_cons_of_ne_nil (natText_ne_nil n)
  have hc : c.isDigit = true := isDigit_of_mem_natText (hdigits ▸ List.mem_cons_self)
  rw [hdigits]
  unfold takeSign
  split
  · next heq => exact absurd (List.cons.inj heq).1 (ne_of_isDigit hc rfl)
  · next heq => exact absurd (List.cons.inj heq).1 (ne_of_isDigit hc rfl)
  · rfl

/-- An integer is read back from its text. -/
theorem readInt?_toString (n : Int) : readInt? (toString n).toList = some n := by
  have hdigits : ∀ m, (!(natText m).isEmpty && (natText m).all Char.isDigit) = true := by
    intro m
    have hall : (natText m).all Char.isDigit = true := List.all_eq_true.2 fun _ => isDigit_of_mem_natText
    simp [natText_ne_nil, hall]
  cases n with
  | ofNat m =>
    rw [toList_toString_ofNat, readInt?, takeSign_natText]
    simp [hdigits, digitsValue_natText]
  | negSucc m =>
    rw [toList_toString_negSucc, readInt?, takeSign]
    simp [hdigits, digitsValue_natText, Int.negSucc_eq]

end SqlDialects.Number
