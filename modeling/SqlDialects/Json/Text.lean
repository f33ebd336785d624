import SqlDialects.Dialect.Literal
import SqlDialects.Json

/-! # JSON text

`Json.ofText?` reads a JSON value from text and `Json.text` writes one without blanks. An integer that fits in 64
bits, signed or not, stays an integer; the negative zero and all other numbers become doubles. -/

namespace SqlDialects.Json
open Number

/-! ## Numbers -/

/-- Reads digits into 64 bits; the ones from the first that does not fit are only counted. -/
def significand (digits : List Char) : Nat × Nat :=
  digits.foldl (fun (n, dropped) c =>
    if dropped = 0 ∧ appendDigit n c < UInt64.size then (appendDigit n c, 0) else (n, dropped + 1)) (0, 0)

/-- Scales a double by a power of ten, by one operation for every step of at most 308. -/
def scale : Nat → Float → Int → Float
  | 0, x, _ => x
  | fuel + 1, x, exponent =>
    let step := min exponent.natAbs 308
    let power := Float.ofScientific 1 false step
    if 0 ≤ exponent then (if exponent ≤ 308 then x * power else x)
    else scale fuel (x / power) (exponent + step)

/-- The double that a number other than an integer stands for: its digits, scaled. -/
def decimalOf (negative : Bool) (whole fraction : List Char) (exponent : Int) : Float :=
  let (n, dropped) := significand (whole ++ fraction)
  let e := exponent - fraction.length + dropped
  let x := scale 8 n.toFloat (max e (-2000))
  if negative then -x else x

/-- Reads an exponent if there is one, and returns the rest. -/
def takeExponent? : List Char → Option (Option Int × List Char)
  | c :: cs =>
    if c = 'e' ∨ c = 'E' then
      let (negative, digits) := takeSign cs
      let text := digits.takeWhile Char.isDigit
      if text.isEmpty then none
      else
        let n : Int := digitsValue text
        some (some (if negative then -n else n), digits.dropWhile Char.isDigit)
    else some (none, c :: cs)
  | [] => some (none, [])

/-- Reads a number and returns the rest. -/
def takeNumber? (cs : List Char) : Option (Json × List Char) := do
  let negative := cs.head? = some '-'
  let cs := if negative then cs.drop 1 else cs
  let whole := cs.takeWhile Char.isDigit
  let rest := cs.dropWhile Char.isDigit
  if whole.isEmpty then none
  let (fraction, rest) := match rest with
    | '.' :: rest => (rest.takeWhile Char.isDigit, rest.dropWhile Char.isDigit)
    | rest => ([], rest)
  let (exponent, rest) ← takeExponent? rest
  let n := digitsValue whole
  if fraction.isEmpty && exponent.isNone && (if negative then 0 < n && n ≤ Nat.pow 2 63 else n < UInt64.size) then
    some (integer (if negative then -n else n), rest)
  else some (decimal (decimalOf negative whole fraction (exponent.getD 0)), rest)

/-! ## Strings -/

/-- The value of a hexadecimal digit. -/
def hexValue (c : Char) : Nat :=
  if c.isDigit then c.toNat - '0'.toNat
  else if 'a' ≤ c ∧ c ≤ 'f' then c.toNat - 'a'.toNat + 10
  else c.toNat - 'A'.toNat + 10

/-- The value of hexadecimal digits. -/
def hexNumber (cs : List Char) : Nat :=
  cs.foldl (fun n c => 16 * n + hexValue c) 0

/-- The character that a letter after a backslash stands for. -/
def unescape : Char → Char
  | 'n' => '\n'
  | 't' => '\t'
  | 'r' => '\r'
  | 'b' => '\x08'
  | 'f' => '\x0c'
  | c => c

/-- Reads a string after its opening quote and returns the rest. A character beyond the first plane is escaped as
two numbers. -/
def takeString? : List Char → Option (List Char × List Char)
  | '"' :: rest => some ([], rest)
  | '\\' :: 'u' :: a :: b :: c :: d :: rest =>
    let n := hexNumber [a, b, c, d]
    if 0xD800 ≤ n ∧ n ≤ 0xDBFF then
      match rest with
      | '\\' :: 'u' :: e :: f :: g :: h :: rest =>
        let m := hexNumber [e, f, g, h]
        (takeString? rest).map fun (s, rest) =>
          (Char.ofNat (0x10000 + (n - 0xD800) * 0x400 + (m - 0xDC00)) :: s, rest)
      | _ => none
    else (takeString? rest).map fun (s, rest) => (Char.ofNat n :: s, rest)
  | '\\' :: c :: rest => (takeString? rest).map fun (s, rest) => (unescape c :: s, rest)
  | c :: rest => (takeString? rest).map fun (s, rest) => (c :: s, rest)
  | [] => none

/-! ## Values -/

/-- Drops the blanks of JSON. -/
def skipBlanks (cs : List Char) : List Char :=
  cs.dropWhile fun c => c = ' ' || c = '\n' || c = '\r' || c = '\t'

mutual

/-- Reads a value and returns the rest. Each step takes a character, so the length of the text is fuel enough. -/
def takeValue? : Nat → List Char → Option (Json × List Char)
  | 0, _ => none
  | fuel + 1, cs =>
    match skipBlanks cs with
    | 'n' :: 'u' :: 'l' :: 'l' :: rest => some (null, rest)
    | 't' :: 'r' :: 'u' :: 'e' :: rest => some (bool true, rest)
    | 'f' :: 'a' :: 'l' :: 's' :: 'e' :: rest => some (bool false, rest)
    | '"' :: rest => (takeString? rest).map fun (s, rest) => (string (String.ofList s), rest)
    | '[' :: rest =>
      match skipBlanks rest with
      | ']' :: rest => some (array [], rest)
      | rest => takeItems? fuel [] rest
    | '\x7b' :: rest =>
      match skipBlanks rest with
      | '\x7d' :: rest => some (object [], rest)
      | rest => takeMembers? fuel [] rest
    | rest => takeNumber? rest

/-- Reads the items of an array up to its end, those before them given in reverse. -/
def takeItems? : Nat → List Json → List Char → Option (Json × List Char)
  | 0, _, _ => none
  | fuel + 1, before, cs => do
    let (j, rest) ← takeValue? fuel cs
    match skipBlanks rest with
    | ',' :: rest => takeItems? fuel (j :: before) rest
    | ']' :: rest => some (array (j :: before).reverse, rest)
    | _ => none

/-- Reads the members of an object up to its end. Of two members of one name the later one counts. -/
def takeMembers? : Nat → List (String × Json) → List Char → Option (Json × List Char)
  | 0, _, _ => none
  | fuel + 1, before, cs =>
    match skipBlanks cs with
    | '"' :: rest => do
      let (name, rest) ← takeString? rest
      let name := String.ofList name
      match skipBlanks rest with
      | ':' :: rest =>
        let (j, rest) ← takeValue? fuel rest
        let members := (name, j) :: before.filter fun member => member.1 != name
        match skipBlanks rest with
        | ',' :: rest => takeMembers? fuel members rest
        | '\x7d' :: rest => some (object members.reverse, rest)
        | _ => none
      | _ => none
    | _ => none

end

/-- Reads a JSON text. -/
def ofText? (s : String) : Option Json :=
  match takeValue? (s.length + 1) s.toList with
  | some (j, rest) => if (skipBlanks rest).isEmpty then some j else none
  | none => none

/-- A character inside a string: quotes, backslashes and control characters are escaped. -/
def escaped (c : Char) : List Char :=
  match c with
  | '"' => ['\\', '"']
  | '\\' => ['\\', '\\']
  | '\n' => ['\\', 'n']
  | '\r' => ['\\', 'r']
  | '\t' => ['\\', 't']
  | c => if c.toNat < 0x20 then '\\' :: 'u' :: '0' :: '0' :: Dialect.hexByte (UInt8.ofNat c.toNat) else [c]

/-- A string in quotes. -/
def quoted (s : String) : List Char :=
  '"' :: s.toList.flatMap escaped ++ ['"']

mutual

/-- Writes a value. A double that is no number is written as null. -/
def chars : Json → List Char
  | null => "null".toList
  | bool b => if b then "true".toList else "false".toList
  | integer n => (toString n).toList
  | decimal x => if x.isFinite then (floatText x).toList else "null".toList
  | string s => quoted s
  | array items => '[' :: itemChars items ++ [']']
  | object members => '\x7b' :: memberChars members ++ ['\x7d']

/-- Items with commas between them. -/
def itemChars : List Json → List Char
  | [] => []
  | [j] => chars j
  | j :: rest => chars j ++ ',' :: itemChars rest

/-- Members with commas between them. -/
def memberChars : List (String × Json) → List Char
  | [] => []
  | [(name, j)] => quoted name ++ ':' :: chars j
  | (name, j) :: rest => quoted name ++ ':' :: chars j ++ ',' :: memberChars rest

end

/-- A value as JSON text. -/
def text (j : Json) : String :=
  String.ofList (chars j)

end SqlDialects.Json
