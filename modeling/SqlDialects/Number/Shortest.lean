/-! # The shortest decimal that reads back

A finite double is `m * 2^q`. Among the decimals that round to it, the shortest ones are found by trying the
grids of one digit, two digits and so on; on each grid only the two neighbours of the value can be hits. -/

namespace SqlDialects.Number

/-- A finite non-negative double, `mantissa * 2^exponent`. -/
structure Binary where
  mantissa : Nat
  exponent : Int
  /-- The gap to the next smaller double is half the gap to the next larger one. -/
  narrowBelow : Bool
  deriving DecidableEq

/-- A decimal, `digits * 10^exponent`. -/
structure Decimal where
  digits : Nat
  exponent : Int
  deriving DecidableEq

/-- Reads the magnitude of a finite double off its bits. -/
def Binary.ofBits (bits : UInt64) : Binary :=
  let exponent := ((bits >>> 52) &&& 0x7FF).toNat
  let fraction := (bits &&& 0xFFFFFFFFFFFFF).toNat
  if exponent = 0 then ⟨fraction, -1074, false⟩
  else ⟨Nat.pow 2 52 + fraction, (exponent : Int) - 1075, fraction == 0 && exponent > 1⟩

/-- Compares `a * 10^i` with `n * 2^j` exactly. -/
def compareScaled (a : Nat) (i : Int) (n : Nat) (j : Int) : Ordering :=
  compare (a * Nat.pow 10 i.toNat * Nat.pow 2 (-j).toNat) (n * Nat.pow 2 j.toNat * Nat.pow 10 (-i).toNat)

/-- A decimal reads back if it lies between the midpoints to the two neighbouring doubles; a midpoint itself
belongs to the double with the even mantissa. -/
def Binary.readsBack (x : Binary) (d : Decimal) : Bool :=
  let low := if x.narrowBelow then 4 * x.mantissa - 1 else 4 * x.mantissa - 2
  let high := 4 * x.mantissa + 2
  let closed := x.mantissa % 2 == 0
  let toLow := compareScaled d.digits d.exponent low (x.exponent - 2)
  let toHigh := compareScaled d.digits d.exponent high (x.exponent - 2)
  (toLow == .gt || (closed && toLow == .eq)) && (toHigh == .lt || (closed && toHigh == .eq))

/-- The least `k` with `x < 10^k`, for a positive double, found upwards from a lower bound. -/
def Binary.scale (x : Binary) : Int :=
  let bits : Int := (x.mantissa.log2 : Int) + x.exponent
  climb 4 (bits * 30103 / 100000 - 1)
where
  climb : Nat → Int → Int
    | 0, k => k
    | fuel + 1, k => if compareScaled 1 k x.mantissa x.exponent == .gt then k else climb fuel (k + 1)

/-- The grid point at or below the value: `x / 10^k` rounded down. -/
def Binary.floorAt (x : Binary) (k : Int) : Nat :=
  (x.mantissa * Nat.pow 2 x.exponent.toNat * Nat.pow 10 (-k).toNat) /
    (Nat.pow 2 (-x.exponent).toNat * Nat.pow 10 k.toNat)

/-- The nearer of the two neighbours on a grid that read back; a tie goes to the larger one. -/
def Binary.hitOn? (x : Binary) (k : Int) : Option Decimal :=
  let below : Decimal := ⟨x.floorAt k, k⟩
  let above : Decimal := ⟨x.floorAt k + 1, k⟩
  match x.readsBack below, x.readsBack above with
  | true, true =>
    if compareScaled (2 * below.digits + 1) k (2 * x.mantissa) x.exponent == .gt then some below else some above
  | true, false => some below
  | false, true => some above
  | false, false => none

/-- The digits of the exact value, the answer should no grid have a hit. -/
def Binary.exact (x : Binary) : Decimal :=
  if x.exponent < 0 then ⟨x.mantissa * Nat.pow 5 (-x.exponent).toNat, x.exponent⟩
  else ⟨x.mantissa * Nat.pow 2 x.exponent.toNat, 0⟩

/-- The shortest decimal that reads back as a positive double, the nearest one of that length. -/
def Binary.shortest (x : Binary) : Decimal :=
  let scale := x.scale
  ((List.range 17).findSome? fun n => x.hitOn? (scale - (n + 1 : Nat))).getD x.exact

end SqlDialects.Number
