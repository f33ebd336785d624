import SqlDialects.Error
import SqlDialects.Query.BoundText

/-! # Markers in expressions

In the text of an expression a question mark is a place for a value, unless it stands between quotes. Single
quotes, double quotes and backquotes open a quotation that the same character closes; nothing escapes. -/

namespace SqlDialects.Marker

/-- The characters that open a quotation. -/
def isQuote (c : Char) : Bool :=
  c = '\'' || c = '"' || c = '\x60'

/-- The quotation that a character leaves a reader in: the quote that will close it, if any is open. -/
def step : Option Char → Char → Option Char
  | none, c => if isQuote c then some c else none
  | some q, c => if c = q then none else some q

/-- The stretches of text between the markers: one more than there are markers. -/
def split : Option Char → List Char → List (List Char)
  | _, [] => [[]]
  | state, c :: cs =>
    if state.isNone && c = '?' then [] :: split none cs
    else match split (step state c) cs with
      | part :: parts => (c :: part) :: parts
      | [] => [[c]]

/-- How many markers a text has. -/
def count (sql : String) : Nat :=
  (split none sql.toList).length - 1

/-- Writes the stretches of text with a value after each but the last. -/
def interleave : List (List Char) → List Value → BoundText → BoundText
  | part :: parts, v :: vs, b => interleave parts vs ((b.write (String.ofList part)).bind v)
  | part :: _, [], b => b.write (String.ofList part)
  | [], _, b => b

/-- Writes an expression with one value for each marker. -/
def write (sql : String) (args : List Value) (b : BoundText) : Except Error BoundText :=
  if count sql = args.length then .ok (interleave (split none sql.toList) args b)
  else .error (.placeholderCount (count sql) args.length)

theorem split_ne_nil (state : Option Char) (cs : List Char) : split state cs ≠ [] := by
  cases cs with
  | nil => simp [split]
  | cons c cs =>
    simp only [split]
    split
    · simp
    · split <;> simp

theorem split_mark (cs : List Char) : split none ('?' :: cs) = [] :: split none cs := rfl

theorem split_other {state : Option Char} {c : Char} (h : ¬ (state = none ∧ c = '?')) (cs : List Char) :
    ∃ part parts, split (step state c) cs = part :: parts ∧ split state (c :: cs) = (c :: part) :: parts := by
  have hm : (state.isNone && decide (c = '?')) = false := by
    rw [Bool.eq_false_iff]
    intro hm
    simp only [Bool.and_eq_true, Option.isNone_iff_eq_none, decide_eq_true_eq] at hm
    exact h hm
  cases hparts : split (step state c) cs with
  | nil => exact absurd hparts (split_ne_nil _ _)
  | cons part parts =>
    refine ⟨part, parts, rfl, ?_⟩
    rw [split, hm, hparts]
    rfl

theorem length_split (sql : String) : (split none sql.toList).length = count sql + 1 := by
  have hpos := List.length_pos_iff.2 (split_ne_nil none sql.toList)
  unfold count
  omega

/-- Writing succeeds exactly if there are as many values as markers. -/
theorem write_eq_ok_iff {sql : String} {args : List Value} {b b' : BoundText} :
    write sql args b = .ok b' ↔
      (split none sql.toList).length = args.length + 1 ∧ interleave (split none sql.toList) args b = b' := by
  rw [length_split]
  unfold write
  split
  · next h => simp [h]
  · next h => simp [h]

end SqlDialects.Marker
