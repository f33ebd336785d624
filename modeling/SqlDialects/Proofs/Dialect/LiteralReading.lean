import SqlDialects.Dialect.Literal

/-!
# Literals read back

A reader of literals follows the rules of the dialect: two quotes inside a string stand for one, any other quote
ends it, and in MySQL a backslash and one of seven characters stand for a character. Both ways to write a string
are read back as the string, and the reader stops right behind the literal. Byte strings read back from their
digits.
-/

namespace SqlDialects.Dialect

/-- What a backslash and the character after it stand for. All other escapes are refused. -/
def unescaped? : Char → Option Char
  | '\'' => some '\''
  | '"' => some '"'
  | '\\' => some '\\'
  | '0' => some '\x00'
  | 'n' => some '\n'
  | 'r' => some '\r'
  | 'Z' => some '\x1a'
  | _ => none

/-- A content that was read, with a character in front. -/
def prepend (c : Char) (read : List Char × List Char) : List Char × List Char :=
  (c :: read.1, read.2)

/-- Reads a string behind its opening quote: its content and the text behind its closing quote. -/
def readContent? (d : Dialect) : List Char → Option (List Char × List Char)
  | '\'' :: '\'' :: cs => (readContent? d cs).map (prepend '\'')
  | '\'' :: cs => some ([], cs)
  | '\\' :: c :: cs =>
    if d = .mysql then (unescaped? c).bind fun e => (readContent? d cs).map (prepend e)
    else (readContent? d (c :: cs)).map (prepend '\\')
  | c :: cs => (readContent? d cs).map (prepend c)
  | [] => none

/-- Reads a string literal at the start of a text, and the text behind it. -/
def readString? (d : Dialect) : List Char → Option (String × List Char)
  | '\'' :: cs => (readContent? d cs).map fun read => (String.ofList read.1, read.2)
  | _ => none

section Content

variable {d : Dialect} {c e : Char} {cs rest : List Char}

theorem readContent?_two_quotes :
    readContent? d ('\'' :: '\'' :: cs) = (readContent? d cs).map (prepend '\'') := by
  rw [readContent?]

theorem readContent?_quote (h : rest.head? ≠ some '\'') : readContent? d ('\'' :: rest) = some ([], rest) := by
  cases rest with
  | nil => rfl
  | cons c rest =>
    have hc : c ≠ '\'' := fun hc => h (by rw [hc]; rfl)
    rw [readContent?]
    intro _ heq
    exact hc (List.cons.inj heq).1

theorem readContent?_escape (h : unescaped? c = some e) :
    readContent? .mysql ('\\' :: c :: cs) = (readContent? .mysql cs).map (prepend e) := by
  rw [readContent?, if_pos rfl, h]
  rfl

theorem readContent?_plain (hq : c ≠ '\'') (hb : c = '\\' → d ≠ .mysql) :
    readContent? d (c :: cs) = (readContent? d cs).map (prepend c) := by
  by_cases hc : c = '\\'
  · subst hc
    cases cs with
    | nil => rfl
    | cons c cs => rw [readContent?, if_neg (hb rfl)]
  · rw [readContent?]
    · exact fun _ h _ => hq h
    · exact hq
    · exact fun _ _ h _ => hc h

end Content

/-- Before any text, what is written is read as one character of the content. -/
def ReadsAs (d : Dialect) (written : List Char) (c : Char) : Prop :=
  ∀ cs, readContent? d (written ++ cs) = (readContent? d cs).map (prepend c)

theorem readsAs_encodedChar (d : Dialect) (c : Char) : ReadsAs d (d.encodedChar c) c := by
  intro cs
  unfold encodedChar
  split
  · exact readContent?_two_quotes
  -- the five escapes of MySQL
  · exact readContent?_escape rfl
  · exact readContent?_escape rfl
  · exact readContent?_escape rfl
  · exact readContent?_escape rfl
  · exact readContent?_escape rfl
  · next hq hb _ _ _ _ => exact readContent?_plain (fun h => hq h) fun h hd => hb hd h

theorem readsAs_slashedChar (c : Char) : ReadsAs .mysql (slashedChar c) c := by
  intro cs
  unfold slashedChar
  split
  · exact readContent?_escape rfl
  · exact readContent?_escape rfl
  · exact readContent?_escape rfl
  · exact readContent?_escape rfl
  · next hq _ hb _ => exact readContent?_plain (fun h => hq h) fun h _ => hb h

theorem readsAs_quotedChar (d : Dialect) (c : Char) : ReadsAs d (d.quotedChar c) c := by
  unfold quotedChar
  split
  · exact readsAs_slashedChar c
  · intro cs
    exact readContent?_two_quotes
  · next hd hq =>
    intro cs
    exact readContent?_plain (fun h => hq h) fun _ h => hd h

theorem readContent?_flatMap {d : Dialect} {f : Char → List Char} (hf : ∀ c, ReadsAs d (f c) c) (content : List Char)
    {rest : List Char} (h : rest.head? ≠ some '\'') :
    readContent? d (content.flatMap f ++ '\'' :: rest) = some (content, rest) := by
  induction content with
  | nil => exact readContent?_quote h
  | cons c content ih =>
    rw [List.flatMap_cons, List.append_assoc, hf c, ih]
    rfl

theorem readString?_inQuotes {d : Dialect} {f : Char → List Char} (hf : ∀ c, ReadsAs d (f c) c) (s : String)
    {rest : List Char} (h : rest.head? ≠ some '\'') :
    readString? d ((inQuotes f s).toList ++ rest) = some (s, rest) := by
  have hcontent := readContent?_flatMap hf s.toList h
  simp only [inQuotes, String.toList_ofList, List.cons_append, List.append_assoc, List.nil_append, readString?]
  rw [hcontent]
  simp

def hexValue? (c : Char) : Option Nat :=
  if '0' ≤ c ∧ c ≤ '9' then some (c.toNat - '0'.toNat)
  else if 'a' ≤ c ∧ c ≤ 'f' then some (c.toNat - 'a'.toNat + 10)
  else if 'A' ≤ c ∧ c ≤ 'F' then some (c.toNat - 'A'.toNat + 10)
  else none

/-- Reads bytes of two digits each. -/
def readHex? : List Char → Option (List UInt8)
  | [] => some []
  | [_] => none
  | high :: low :: digits => do
    let h ← hexValue? high
    let l ← hexValue? low
    let bytes ← readHex? digits
    return UInt8.ofNat (16 * h + l) :: bytes

/-- The text before a quote at the end. -/
def closed? (cs : List Char) : Option (List Char) :=
  if cs.getLast? = some '\'' then some cs.dropLast else none

/-- The digits of a byte string. The form of MySQL without quotes has at least one digit. -/
def hexDigits? : Dialect → List Char → Option (List Char)
  | mysql, '0' :: 'x' :: digits => if digits.isEmpty then none else some digits
  | mysql, 'X' :: '\'' :: cs => closed? cs
  | postgres, 'E' :: '\'' :: '\\' :: '\\' :: 'x' :: cs => closed? cs
  | sqlite, 'X' :: '\'' :: cs => closed? cs
  | _, _ => none

def readBytes? (d : Dialect) (cs : List Char) : Option (List UInt8) :=
  (hexDigits? d cs).bind readHex?

theorem hexValue?_hexDigit {n : Nat} (h : n < 16) : hexValue? (hexDigit n) = some n := by
  have hall : ∀ n : Fin 16, hexValue? (hexDigit n) = some n.val := by decide
  exact hall ⟨n, h⟩

theorem readHex?_flatMap (bytes : List UInt8) : readHex? (bytes.flatMap hexByte) = some bytes := by
  induction bytes with
  | nil => rfl
  | cons b bytes ih =>
    have hhigh : b.toNat / 16 < 16 := by
      have := b.toNat_lt
      omega
    have hlow : b.toNat % 16 < 16 := Nat.mod_lt _ (by decide)
    have hbyte : UInt8.ofNat (16 * (b.toNat / 16) + b.toNat % 16) = b := by
      rw [Nat.div_add_mod, UInt8.ofNat_toNat]
    simp only [List.flatMap_cons, hexByte, List.cons_append, List.nil_append, readHex?, hexValue?_hexDigit hhigh,
      hexValue?_hexDigit hlow, ih]
    exact congrArg (fun byte => some (byte :: bytes)) hbyte

theorem closed?_append_quote (cs : List Char) : closed? (cs ++ ['\'']) = some cs := by
  simp [closed?]

theorem hexDigits?_encodeBytes (d : Dialect) (bytes : List UInt8) :
    hexDigits? d (d.encodeBytes bytes).toList = some (bytes.flatMap hexByte) := by
  cases d with
  | mysql =>
    cases bytes with
    | nil => rfl
    | cons b bytes =>
      simp [encodeBytes, hex, hexByte, hexDigits?]
  | postgres =>
    have hclosed := closed?_append_quote (bytes.flatMap hexByte)
    simpa [encodeBytes, hex, hexDigits?] using hclosed
  | sqlite =>
    have hclosed := closed?_append_quote (bytes.flatMap hexByte)
    simpa [encodeBytes, hex, hexDigits?] using hclosed

/-- Both ways to write a string are read back as the string with the text behind it left over, and byte strings
are read back as their bytes. -/
theorem literals_read_back (d : Dialect) :
    (∀ (s : String) (rest : List Char), rest.head? ≠ some '\'' →
      d.readString? ((d.encodeString s).toList ++ rest) = some (s, rest) ∧
      d.readString? ((d.quoteString s).toList ++ rest) = some (s, rest)) ∧
    ∀ bytes : List UInt8, d.readBytes? (d.encodeBytes bytes).toList = some bytes := by
  constructor
  · intro s rest h
    exact ⟨readString?_inQuotes (readsAs_encodedChar d) s h, readString?_inQuotes (readsAs_quotedChar d) s h⟩
  · intro bytes
    rw [readBytes?, hexDigits?_encodeBytes]
    exact readHex?_flatMap bytes

/-- A string that ends in a backslash and a quote, with all characters that MySQL escapes. -/
theorem literals_read_back_of_escapes :
    let s := "\"\n\r\x1a\x00\\'"
    let rest := " OR ''=''".toList
    rest.head? ≠ some '\'' ∧
      mysql.readString? ((mysql.encodeString s).toList ++ rest) = some (s, rest) ∧
      mysql.readString? ((mysql.quoteString s).toList ++ rest) = some (s, rest) := by
  intro s rest
  have hrest : rest.head? ≠ some '\'' := by decide
  exact ⟨hrest, (literals_read_back mysql).1 s rest hrest⟩

end SqlDialects.Dialect
