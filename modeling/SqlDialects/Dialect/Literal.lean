import SqlDialects.Dialect
import SqlDialects.Text.Search
import SqlDialects.Value

/-! # Literals

A literal stands for a value inside the text of a statement. There are two ways to write a string: the one for
values of a query, `encodeString`, and the one for texts of a definition, `quoteString`. Where a backslash
escapes, they differ in what they escape. -/

namespace SqlDialects.Dialect
open Text

/-- A character inside a string of a query. -/
def encodedChar : Dialect → Char → List Char
  | _, '\'' => ['\'', '\'']
  | mysql, '\\' => ['\\', '\\']
  | mysql, '\x00' => ['\\', '0']
  | mysql, '\n' => ['\\', 'n']
  | mysql, '\r' => ['\\', 'r']
  | mysql, '\x1a' => ['\\', 'Z']
  | _, c => [c]

/-- Escapes quotes, backslashes and the null character with a backslash. -/
def slashedChar : Char → List Char
  | '\'' => ['\\', '\'']
  | '"' => ['\\', '"']
  | '\\' => ['\\', '\\']
  | '\x00' => ['\\', '0']
  | c => [c]

/-- A text with its quotes, backslashes and null characters escaped. -/
def slashed (s : String) : String :=
  String.ofList (s.toList.flatMap slashedChar)

/-- A character inside a string of a definition. -/
def quotedChar : Dialect → Char → List Char
  | mysql, c => slashedChar c
  | _, '\'' => ['\'', '\'']
  | _, c => [c]

/-- A text between single quotes, its characters written by `f`. -/
def inQuotes (f : Char → List Char) (s : String) : String :=
  String.ofList ('\'' :: s.toList.flatMap f ++ ['\''])

/-- A string of a query. -/
def encodeString (d : Dialect) (s : String) : String :=
  inQuotes d.encodedChar s

/-- A string of a definition or of a query to a catalog. -/
def quoteString (d : Dialect) (s : String) : String :=
  inQuotes d.quotedChar s

/-- Strings of a definition with commas between them. -/
def quoteValues (d : Dialect) (values : List String) : String :=
  ",".intercalate (values.map d.quoteString)

/-- A string with its quotes doubled, whatever the dialect. -/
def standardString (s : String) : String :=
  inQuotes (fun c => if c = '\'' then ['\'', '\''] else [c]) s

def encodeBool : Dialect → Bool → String
  | postgres, b => if b then "TRUE" else "FALSE"
  | _, b => if b then "1" else "0"

/-- A hexadecimal digit in lower case. -/
def hexDigit (n : Nat) : Char :=
  if n < 10 then Char.ofNat ('0'.toNat + n) else Char.ofNat ('a'.toNat + n - 10)

/-- The two digits of a byte. -/
def hexByte (b : UInt8) : List Char :=
  [hexDigit (b.toNat / 16), hexDigit (b.toNat % 16)]

/-- Bytes as hexadecimal digits. -/
def hex (bytes : List UInt8) : String :=
  String.ofList (bytes.flatMap hexByte)

/-- A string of bytes. -/
def encodeBytes : Dialect → List UInt8 → String
  | mysql, bytes => if bytes.isEmpty then "X''" else "0x" ++ hex bytes
  | postgres, bytes => "E'\\\\x" ++ hex bytes ++ "'"
  | sqlite, bytes => "X'" ++ hex bytes ++ "'"

def encodeTime (d : Dialect) (t : Timestamp) : String :=
  d.encodeString t.text

/-- Any value as a literal. -/
def encodeValue (d : Dialect) : Value → String
  | .null => "NULL"
  | .bool b => d.encodeBool b
  | .int n => Number.intText n
  | .float x => Number.floatText x
  | .text s => d.encodeString s
  | .blob bytes => d.encodeBytes bytes
  | .time t => d.encodeTime t

end SqlDialects.Dialect
