import SqlDialects.Proofs.Outcome
import SqlDialects.Query.Condition

/-!
# Writing goes on at the end

One bound text after another is the text that writing the pieces of the second after the first gives. What
writes conditions only appends: its result after a text is that text and then its result after nothing.
-/

namespace SqlDialects
namespace BoundText

/-- Writes or binds one piece. -/
def add (b : BoundText) : Piece → BoundText
  | .text s => b.write s
  | .value v => b.bind v

instance : Append BoundText :=
  ⟨fun b e => e.pieces.foldl add b⟩

variable (b e : BoundText) (f : Nat → Value → String) (n : Nat)

theorem append_def : b ++ e = e.pieces.foldl add b := rfl

@[simp] theorem append_empty : b ++ empty = b := rfl

theorem extend_extend (s t : String) (ps : List Piece) : extend t (extend s ps) = extend (s ++ t) ps := by
  cases ps with
  | nil => rfl
  | cons p rest =>
    cases p with
    | text last => simp [extend, String.append_assoc]
    | value v => rfl

theorem write_write (s t : String) : (b.write s).write t = b.write (s ++ t) := by
  by_cases hs : s = ""
  · simp [hs]
  by_cases ht : t = ""
  · simp [ht]
  have hst : s ++ t ≠ "" := by simp [hs]
  refine ext ?_
  rw [newestFirst_write _ ht, newestFirst_write _ hs, newestFirst_write _ hst, extend_extend]

@[simp] theorem append_bind (v : Value) : b ++ e.bind v = (b ++ e).bind v := by
  simp [append_def, add]

@[simp] theorem append_write (s : String) : b ++ e.write s = (b ++ e).write s := by
  by_cases hs : s = ""
  · simp [hs]
  rw [append_def, append_def]
  obtain h | ⟨ps, last, hlast, h⟩ := e.pieces_write hs
  · simp [h, add]
  · simp [h, hlast, add, write_write]

/-- The text with the values written by `f`, which are counted from `n`. -/
def textFrom (f : Nat → Value → String) (n : Nat) (b : BoundText) : String :=
  textOf f n b.pieces

theorem render_eq (d : Dialect) : b.render d = b.textFrom (fun n _ => d.placeholder n) 0 := rfl

theorem textOf_append (ps qs : List Piece) :
    textOf f n (ps ++ qs) = textOf f n ps ++ textOf f (n + (valuesOf ps).length) qs := by
  induction ps generalizing n with
  | nil => simp [textOf, valuesOf]
  | cons p ps ih =>
    cases p with
    | text s => simp [textOf, valuesOf, ih, String.append_assoc]
    | value v =>
      have hn : n + 1 + (valuesOf ps).length = n + ((valuesOf ps).length + 1) := by omega
      simp [textOf, valuesOf, ih, String.append_assoc, hn]

@[simp] theorem textFrom_empty : empty.textFrom f n = "" := rfl

@[simp] theorem textFrom_bind (v : Value) : (b.bind v).textFrom f n = b.textFrom f n ++ f (n + b.argCount) v := by
  rw [textFrom, pieces_bind, textOf_append, ← args, length_args]
  simp [textFrom, textOf]

@[simp] theorem textFrom_write (s : String) : (b.write s).textFrom f n = b.textFrom f n ++ s := by
  by_cases hs : s = ""
  · simp [hs]
  rw [textFrom, textFrom]
  obtain h | ⟨ps, last, hlast, h⟩ := b.pieces_write hs
  · simp [h, textOf_append, textOf]
  · simp [h, hlast, textOf_append, textOf, String.append_assoc]

theorem foldl_add (ps : List Piece) : (ps.foldl add b).argCount = b.argCount + (valuesOf ps).length ∧
    (ps.foldl add b).textFrom f n = b.textFrom f n ++ textOf f (n + b.argCount) ps := by
  induction ps generalizing b with
  | nil => simp [valuesOf, textOf]
  | cons p ps ih =>
    obtain ⟨hcount, htext⟩ := ih (b.add p)
    rw [List.foldl_cons, hcount, htext]
    cases p with
    | text s => simp [add, valuesOf, textOf, String.append_assoc]
    | value v =>
      have hn : b.argCount + 1 + (valuesOf ps).length = b.argCount + ((valuesOf ps).length + 1) := by omega
      simp [add, valuesOf, textOf, String.append_assoc, hn, Nat.add_assoc]

@[simp] theorem argCount_append : (b ++ e).argCount = b.argCount + e.argCount := by
  rw [append_def, (foldl_add b (fun _ _ => "") 0 e.pieces).1, ← args, length_args]

@[simp] theorem textFrom_append : (b ++ e).textFrom f n = b.textFrom f n ++ e.textFrom f (n + b.argCount) :=
  (foldl_add b f n e.pieces).2

end BoundText

variable (b e : BoundText)

namespace Marker

theorem interleave_append (parts : List (List Char)) (vs : List Value) :
    interleave parts vs (b ++ e) = b ++ interleave parts vs e := by
  induction parts generalizing vs e with
  | nil => cases vs <;> simp [interleave]
  | cons part parts ih =>
    cases vs with
    | nil => simp [interleave]
    | cons v vs => rw [interleave, interleave, ← ih, BoundText.append_bind, BoundText.append_write]

theorem write_append (sql : String) (args : List Value) :
    write sql args (b ++ e) = (write sql args e).map (b ++ ·) := by
  unfold write
  split
  · rw [interleave_append]; rfl
  · rfl

end Marker

namespace Condition

mutual

theorem write_append (d : Dialect) (c : Condition) (b e : BoundText) :
    c.write d (b ++ e) = (c.write d e).map (b ++ ·) :=
  match c with
  | expr sql args => by simp only [write, Marker.write_append]
  | column name tail args => by simp only [write, ← BoundText.append_write, Marker.write_append]
  | group members => by simp only [write]; exact writeMembers_append d _ true members b e

theorem writeMembers_append (d : Dialect) (wrapped first : Bool) (members : List (Conjunction × Condition))
    (b e : BoundText) :
    writeMembers d wrapped first members (b ++ e) = (writeMembers d wrapped first members e).map (b ++ ·) :=
  match members with
  | [] => by simp only [writeMembers]; rfl
  | (conjunction, c) :: rest => by
    have hsep : (if first then b ++ e else (b ++ e).write conjunction.separator) =
        b ++ (if first then e else e.write conjunction.separator) := by
      cases first <;> simp
    have hopen : ∀ e, (if wrapped then (b ++ e).write "(" else b ++ e) = b ++ (if wrapped then e.write "(" else e) := by
      intro e
      cases wrapped <;> simp
    have hclose : ∀ e, (if wrapped then (b ++ e).write ")" else b ++ e) = b ++ (if wrapped then e.write ")" else e) := by
      intro e
      cases wrapped <;> simp
    simp only [writeMembers, hsep, hopen]
    rw [write_append d c, except_map_bind, except_bind_map]
    simp only [hclose, writeMembers_append d wrapped false rest b]

end

/-- What a condition is written to after a text, from what it is written to after nothing. -/
theorem write_eq_map (d : Dialect) (c : Condition) (b : BoundText) :
    c.write d b = (c.write d .empty).map (b ++ ·) := by
  rw [← write_append, BoundText.append_empty]

end Condition
end SqlDialects
