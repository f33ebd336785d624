import Mathlib.Data.String.Basic
import SqlDialects.Proofs.Text.Occurrence

/-!
# Places in a text, counted in bytes

A text can be cut at places instead of between its parts: a search gives the byte at which a pattern begins, and a
slice goes from one byte up to another. Not every slice exists. The one up to a place that was found always does, and
it is what stands in front of the pattern.
-/

namespace SqlDialects.Text
open String (utf8Len)

variable {pat cs part xs ys : List Char} {start stop n : Nat}

/-- The byte at which the first occurrence of a pattern begins. -/
def find? (pat : List Char) : List Char → Option Nat
  | [] => if pat.isEmpty then some 0 else none
  | c :: cs => if pat.isPrefixOf (c :: cs) then some 0 else (find? pat cs).map (· + c.utf8Size)

/-- The byte at which the last occurrence of a pattern begins. -/
def rfind? (pat : List Char) : List Char → Option Nat
  | [] => if pat.isEmpty then some 0 else none
  | c :: cs =>
    match rfind? pat cs with
    | some place => some (place + c.utf8Size)
    | none => if pat.isPrefixOf (c :: cs) then some 0 else none

/-- The characters before a byte and those from it on. There are none if the byte lies beyond the end or inside a
character. -/
def splitBytes? (n : Nat) : List Char → Option (List Char × List Char)
  | [] => if n = 0 then some ([], []) else none
  | c :: cs =>
    if n = 0 then some ([], c :: cs)
    else if c.utf8Size ≤ n then
      (splitBytes? (n - c.utf8Size) cs).map fun (before, after) => (c :: before, after)
    else none

/-- The characters from one byte up to another, if the places are in order and neither is out of range. -/
def slice? (start stop : Nat) (cs : List Char) : Option (List Char) :=
  if start ≤ stop then do
    let (_, rest) ← splitBytes? start cs
    let (part, _) ← splitBytes? (stop - start) rest
    some part
  else none

theorem splitBytes?_append (xs ys : List Char) : splitBytes? (utf8Len xs) (xs ++ ys) = some (xs, ys) := by
  induction xs with
  | nil => cases ys <;> rfl
  | cons x xs ih =>
    have hne : utf8Len (x :: xs) ≠ 0 := mt String.utf8Len_eq_zero.1 (List.cons_ne_nil x xs)
    rw [List.cons_append, splitBytes?, if_neg hne, String.utf8Len_cons, if_pos (Nat.le_add_left _ _),
      Nat.add_sub_cancel, ih]
    rfl

theorem eq_append_of_splitBytes? (h : splitBytes? n cs = some (xs, ys)) : cs = xs ++ ys ∧ utf8Len xs = n := by
  induction cs generalizing n xs with
  | nil =>
    rw [splitBytes?] at h
    split at h
    · next hn =>
      cases h
      exact ⟨rfl, hn.symm⟩
    · cases h
  | cons c cs ih =>
    rw [splitBytes?] at h
    split at h
    · next hn =>
      cases h
      exact ⟨rfl, hn.symm⟩
    split at h
    · next hfits =>
      obtain ⟨⟨before, after⟩, hrest, hparts⟩ := Option.map_eq_some_iff.1 h
      cases hparts
      obtain ⟨rfl, hlength⟩ := ih hrest
      exact ⟨rfl, by rw [String.utf8Len_cons, hlength, Nat.sub_add_cancel hfits]⟩
    · cases h

/-- A slice exists exactly if both places stand between characters, in their order. -/
theorem slice?_eq_some_iff : slice? start stop cs = some part ↔
    ∃ before after, cs = before ++ part ++ after ∧ utf8Len before = start ∧ utf8Len (before ++ part) = stop := by
  constructor
  · intro h
    rw [slice?] at h
    split at h
    · next hle =>
      obtain ⟨⟨before, rest⟩, hbefore, h⟩ := Option.bind_eq_some_iff.1 h
      obtain ⟨⟨part', after⟩, hpart, h⟩ := Option.bind_eq_some_iff.1 h
      cases h
      obtain ⟨rfl, hstart⟩ := eq_append_of_splitBytes? hbefore
      obtain ⟨rfl, hstop⟩ := eq_append_of_splitBytes? hpart
      refine ⟨before, after, (List.append_assoc _ _ _).symm, hstart, ?_⟩
      rw [String.utf8Len_append, hstart, hstop]
      omega
    · cases h
  · rintro ⟨before, after, rfl, rfl, rfl⟩
    rw [slice?, String.utf8Len_append, if_pos (Nat.le_add_right _ _), List.append_assoc, splitBytes?_append,
      Nat.add_sub_cancel_left]
    simp [splitBytes?_append]

/-- What stands in front of a place in a text is a slice of it. -/
theorem slice?_append (xs ys : List Char) : slice? 0 (utf8Len xs) (xs ++ ys) = some xs :=
  slice?_eq_some_iff.2 ⟨[], ys, rfl, rfl, rfl⟩

theorem slice?_self (cs : List Char) : slice? 0 (utf8Len cs) cs = some cs := by
  have h := slice?_append cs []
  rwa [List.append_nil] at h

theorem find?_eq (pat cs : List Char) : find? pat cs = (cutFirst? pat cs).map (utf8Len ·.1) := by
  induction cs with
  | nil => cases pat <;> rfl
  | cons c cs ih =>
    rw [find?, cutFirst?, ih]
    split
    · rfl
    · simp [Function.comp_def]

theorem rfind?_eq (pat cs : List Char) : rfind? pat cs = (cutLast? pat cs).map (utf8Len ·.1) := by
  induction cs with
  | nil => cases pat <;> rfl
  | cons c cs ih =>
    rw [rfind?, cutLast?, ih]
    cases cutLast? pat cs with
    | some cut => rfl
    | none =>
      simp only [Option.map_none]
      split <;> rfl

theorem slice?_of_cutFirst? {q : Char} {before after : List Char} (h : cutFirst? [q] cs = some (before, after)) :
    slice? 0 (utf8Len before) cs = some before := by
  rw [(cutFirst?_singleton_eq_some_iff.1 h).1]
  exact slice?_append before (q :: after)

theorem slice?_of_cutLast? {before after : List Char} (h : cutLast? pat cs = some (before, after)) :
    slice? 0 (utf8Len before) cs = some before := by
  rw [eq_append_of_cutLast? h, List.append_assoc]
  exact slice?_append before (pat ++ after)

end SqlDialects.Text
