import SqlDialects.Dialect.Literal

/-! # Texts with bound values

A bound text is a text with values at places inside it. It is built from left to right by `write` and `bind`
and read in two ways: `render` puts a placeholder at each place and lists the values, `renderLiteral` puts
literals there. Adjacent texts are kept as one, so a bound text is determined by what was written and not by
how the writing was cut into steps. -/

namespace SqlDialects

/-- A stretch of text, or a place with its value. -/
inductive Piece where
  | text (s : String)
  | value (v : Value)

/-- The values among some pieces. -/
def BoundText.valuesOf : List Piece → List Value
  | [] => []
  | .text _ :: rest => valuesOf rest
  | .value v :: rest => v :: valuesOf rest

/-- Pieces in the order opposite to reading, so that both steps act on the head. The number of values among them is
kept beside them. -/
structure BoundText where
  newestFirst : List Piece
  argCount : Nat
  argCount_eq : argCount = (BoundText.valuesOf newestFirst).length

namespace BoundText

/-- Nothing written yet. -/
def empty : BoundText := ⟨[], 0, rfl⟩

instance : Inhabited BoundText := ⟨empty⟩

/-- The pieces in reading order. -/
def pieces (b : BoundText) : List Piece :=
  b.newestFirst.reverse

/-- Whether nothing was written and nothing bound. -/
def isEmpty (b : BoundText) : Bool :=
  b.newestFirst.isEmpty

/-- Pieces, the newest first, with a text after them: it goes into the newest one if that is a text. -/
def extend (s : String) : List Piece → List Piece
  | .text last :: older => .text (last ++ s) :: older
  | older => .text s :: older

theorem valuesOf_extend (s : String) (ps : List Piece) : valuesOf (extend s ps) = valuesOf ps := by
  unfold extend
  split <;> rfl

/-- Appends a text, to the last piece if that is a text. -/
def write (b : BoundText) (s : String) : BoundText :=
  if s.isEmpty then b
  else ⟨extend s b.newestFirst, b.argCount, by rw [valuesOf_extend, b.argCount_eq]⟩

/-- Appends a place for a value. -/
def bind (b : BoundText) (v : Value) : BoundText :=
  ⟨.value v :: b.newestFirst, b.argCount + 1, congrArg (· + 1) b.argCount_eq⟩

/-- The bound values in reading order. -/
def args (b : BoundText) : List Value :=
  valuesOf b.pieces

/-- The text of some pieces, the values after the first `n` written by `f`. -/
def textOf (f : Nat → Value → String) (n : Nat) : List Piece → String
  | [] => ""
  | .text s :: rest => s ++ textOf f n rest
  | .value v :: rest => f n v ++ textOf f (n + 1) rest

/-- The text with a placeholder for each value. -/
def render (d : Dialect) (b : BoundText) : String :=
  textOf (fun n _ => d.placeholder n) 0 b.pieces

/-- The text with each value as a literal. -/
def renderLiteral (d : Dialect) (b : BoundText) : String :=
  textOf (fun _ v => d.encodeValue v) 0 b.pieces

/-- The count of a text follows from its pieces. -/
theorem ext {b b' : BoundText} (h : b.newestFirst = b'.newestFirst) : b = b' := by
  obtain ⟨ps, n, hn⟩ := b
  obtain ⟨ps', n', hn'⟩ := b'
  obtain rfl : ps = ps' := h
  obtain rfl : n = n' := hn.trans hn'.symm
  rfl

@[simp] theorem argCount_empty : empty.argCount = 0 := rfl

@[simp] theorem write_empty (b : BoundText) : b.write "" = b := rfl

theorem newestFirst_write (b : BoundText) {s : String} (h : s ≠ "") :
    (b.write s).newestFirst = extend s b.newestFirst := by
  have hs : ¬ s.isEmpty = true := by simpa using h
  rw [write, if_neg hs]

/-- A text that is written becomes a piece of its own, or it goes to the end of the last piece. -/
theorem pieces_write (b : BoundText) {s : String} (h : s ≠ "") : (b.write s).pieces = b.pieces ++ [.text s] ∨
    ∃ ps last, b.pieces = ps ++ [.text last] ∧ (b.write s).pieces = ps ++ [.text (last ++ s)] := by
  rw [pieces, pieces, newestFirst_write b h]
  unfold extend
  split
  · next last older hb => exact .inr ⟨older.reverse, last, by rw [hb, List.reverse_cons], List.reverse_cons⟩
  · exact .inl List.reverse_cons

@[simp] theorem pieces_bind (b : BoundText) (v : Value) : (b.bind v).pieces = b.pieces ++ [.value v] := by
  simp [bind, pieces]

@[simp] theorem valuesOf_append (ps qs : List Piece) : valuesOf (ps ++ qs) = valuesOf ps ++ valuesOf qs := by
  induction ps with
  | nil => rfl
  | cons p ps ih => cases p <;> simp [valuesOf, ih]

theorem valuesOf_reverse (ps : List Piece) : valuesOf ps.reverse = (valuesOf ps).reverse := by
  induction ps with
  | nil => rfl
  | cons p ps ih => cases p <;> simp [valuesOf, ih]

theorem args_eq (b : BoundText) : b.args = (valuesOf b.newestFirst).reverse :=
  valuesOf_reverse b.newestFirst

theorem length_args (b : BoundText) : b.args.length = b.argCount := by
  rw [args_eq, List.length_reverse, b.argCount_eq]

@[simp] theorem args_bind (b : BoundText) (v : Value) : (b.bind v).args = b.args ++ [v] := by
  simp [args, valuesOf]

@[simp] theorem args_write (b : BoundText) (s : String) : (b.write s).args = b.args := by
  by_cases h : s = ""
  · rw [h, write_empty]
  · rw [args_eq, newestFirst_write b h, valuesOf_extend, args_eq]

@[simp] theorem argCount_bind (b : BoundText) (v : Value) : (b.bind v).argCount = b.argCount + 1 := rfl

@[simp] theorem argCount_write (b : BoundText) (s : String) : (b.write s).argCount = b.argCount := by
  unfold write
  split <;> rfl

end BoundText

/-- A query and its values, ready for a database. -/
structure Prepared where
  sql : String
  args : List Value

end SqlDialects
