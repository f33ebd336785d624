/-! # Searching, cutting and replacing in texts

All functions work on lists of characters and read from left to right. -/

namespace SqlDialects.Text

/-- `occurs pat cs` holds if `pat` stands somewhere in `cs`. -/
def occurs (pat : List Char) : List Char → Bool
  | [] => pat.isEmpty
  | c :: cs => pat.isPrefixOf (c :: cs) || occurs pat cs

/-- The text before the first occurrence of `pat` and the text after it. -/
def cutFirst? (pat : List Char) : List Char → Option (List Char × List Char)
  | [] => if pat.isEmpty then some ([], []) else none
  | c :: cs =>
    if pat.isPrefixOf (c :: cs) then some ([], (c :: cs).drop pat.length)
    else (cutFirst? pat cs).map fun (before, after) => (c :: before, after)

/-- The text before the last occurrence of `pat` and the text after it. -/
def cutLast? (pat : List Char) : List Char → Option (List Char × List Char)
  | [] => if pat.isEmpty then some ([], []) else none
  | c :: cs =>
    match cutLast? pat cs with
    | some (before, after) => some (c :: before, after)
    | none => if pat.isPrefixOf (c :: cs) then some ([], (c :: cs).drop pat.length) else none

/-- The parts of a text between the occurrences of a separator: always at least one. -/
def splitAt (sep : Char) : List Char → List (List Char)
  | [] => [[]]
  | c :: cs =>
    if c = sep then [] :: splitAt sep cs
    else match splitAt sep cs with
      | part :: parts => (c :: part) :: parts
      | [] => [[c]]

/-- Replaces every occurrence of a non-empty pattern, the next search starting after the last match. -/
def replaceAll (pat rep : List Char) : List Char → List Char
  | [] => []
  | c :: cs =>
    if pat.isPrefixOf (c :: cs) then rep ++ replaceAll pat rep (cs.drop (pat.length - 1))
    else c :: replaceAll pat rep cs
termination_by cs => cs.length
decreasing_by all_goals simp; try omega

/-- Writes a character twice wherever it stands. -/
def double (q : Char) : List Char → List Char
  | [] => []
  | c :: cs => if c = q then q :: q :: double q cs else c :: double q cs

/-- Reads each pair of adjacent `q` as one; a `q` without a partner stays. -/
def undouble (q : Char) : List Char → List Char
  | [] => []
  | [c] => [c]
  | c :: c' :: cs => if c = q ∧ c' = q then q :: undouble q cs else c :: undouble q (c' :: cs)

/-- The lines of a text. A line ends at a line feed, and a carriage return before it belongs to the
line break; the last line may lack its line feed. -/
def lines (cs : List Char) : List (List Char) :=
  terminated (splitAt '\n' cs)
where
  /-- Every part but the last ended at a line feed; an empty last part is no line. -/
  terminated : List (List Char) → List (List Char)
    | [] => []
    | [last] => if last.isEmpty then [] else [last]
    | line :: rest => dropReturn line :: terminated rest
  /-- Drops one carriage return at the end. -/
  dropReturn : List Char → List Char
    | [] => []
    | ['\r'] => []
    | c :: cs => c :: dropReturn cs

theorem splitAt_ne_nil (sep : Char) (cs : List Char) : splitAt sep cs ≠ [] := by
  cases cs with
  | nil => simp [splitAt]
  | cons c cs =>
    simp only [splitAt]
    split
    · simp
    · split <;> simp

/-- The parts joined by the separator are the text. -/
theorem intercalate_splitAt (sep : Char) (cs : List Char) :
    List.intercalate [sep] (splitAt sep cs) = cs := by
  induction cs with
  | nil => rfl
  | cons c cs ih =>
    simp only [splitAt]
    split
    · next h =>
      subst h
      cases hs : splitAt c cs with
      | nil => exact absurd hs (splitAt_ne_nil c cs)
      | cons p ps => rw [hs] at ih; simp [List.intercalate, List.intersperse] at ih ⊢; exact ih
    · split
      · next part parts hs =>
        rw [hs] at ih
        cases parts <;> simp_all [List.intercalate, List.intersperse]
      · next hs => exact absurd hs (splitAt_ne_nil sep cs)

/-- Reading undoes writing a character twice. -/
theorem undouble_double (q : Char) (cs : List Char) : undouble q (double q cs) = cs := by
  induction cs with
  | nil => rfl
  | cons c cs ih =>
    by_cases h : c = q
    · subst h; simp [double, undouble, ih]
    · cases hd : double q cs with
      | nil => rw [hd] at ih; simp only [double, h, if_false, hd, undouble]; rw [← ih]; rfl
      | cons d ds => rw [hd] at ih; simp [double, h, hd, undouble, ih]

theorem double_of_notMem {q : Char} {cs : List Char} (h : q ∉ cs) : double q cs = cs := by
  induction cs with
  | nil => rfl
  | cons c cs ih =>
    simp only [List.mem_cons, not_or] at h
    simp [double, Ne.symm h.1, ih h.2]

/-- What is cut at the last occurrence can be put together again. -/
theorem eq_append_of_cutLast? {pat cs before after : List Char}
    (h : cutLast? pat cs = some (before, after)) : cs = before ++ pat ++ after := by
  induction cs generalizing before after with
  | nil =>
    simp only [cutLast?] at h
    split at h
    · next hp => simp_all
    · simp at h
  | cons c cs ih =>
    simp only [cutLast?] at h
    split at h
    · next b a hc =>
      simp only [Option.some.injEq, Prod.mk.injEq] at h
      obtain ⟨rfl, rfl⟩ := h
      simp [ih hc]
    · split at h
      · next hp =>
        simp only [Option.some.injEq, Prod.mk.injEq] at h
        obtain ⟨rfl, rfl⟩ := h
        have := List.prefix_iff_eq_append.1 (List.isPrefixOf_iff_prefix.1 hp)
        simpa using this.symm
      · simp at h

theorem cutFirst?_singleton_eq_some_iff {q : Char} {cs before after : List Char} :
    cutFirst? [q] cs = some (before, after) ↔ cs = before ++ q :: after ∧ q ∉ before := by
  induction cs generalizing before with
  | nil => simp [cutFirst?]
  | cons c cs ih =>
    by_cases hc : q = c
    · subst hc
      cases before with
      | nil => simp [cutFirst?]
      | cons b before => simp +contextual [cutFirst?]
    · have hcut : cutFirst? [q] (c :: cs) = (cutFirst? [q] cs).map fun (before, after) => (c :: before, after) := by
        simp [cutFirst?, hc]
      rw [hcut]
      cases before with
      | nil => simp [Ne.symm hc]
      | cons b before =>
        have hb : c = b → q ≠ b := fun h => h ▸ hc
        simp only [Option.map_eq_some_iff, Prod.exists]
        grind

theorem cutLast?_singleton_eq_none_iff {q : Char} {cs : List Char} : cutLast? [q] cs = none ↔ q ∉ cs := by
  induction cs with
  | nil => simp [cutLast?]
  | cons c cs ih =>
    simp only [cutLast?]
    split
    · next h =>
      have hq : q ∈ cs := by simpa [h] using ih
      simp [hq]
    · next h =>
      have hq : q ∉ cs := ih.1 h
      simp [hq]

theorem not_mem_of_cutLast?_singleton {q : Char} {cs before after : List Char}
    (h : cutLast? [q] cs = some (before, after)) : q ∉ after := by
  induction cs generalizing before after with
  | nil => simp [cutLast?] at h
  | cons c cs ih =>
    simp only [cutLast?] at h
    split at h
    · next hcut =>
      cases h
      exact ih hcut
    · next hcut =>
      split at h
      · cases h
        exact cutLast?_singleton_eq_none_iff.1 hcut
      · cases h

theorem cutLast?_singleton_eq_some_iff {q : Char} {cs before after : List Char} :
    cutLast? [q] cs = some (before, after) ↔ cs = before ++ q :: after ∧ q ∉ after := by
  constructor
  · intro h
    have hsplit : cs = before ++ [q] ++ after := eq_append_of_cutLast? h
    exact ⟨by simpa using hsplit, not_mem_of_cutLast?_singleton h⟩
  · rintro ⟨rfl, hafter⟩
    have hnone : cutLast? [q] after = none := cutLast?_singleton_eq_none_iff.2 hafter
    induction before with
    | nil => simp [cutLast?, hnone]
    | cons b before ih => simp [cutLast?, ih]

/-- One text split at two characters: one split is in front of the other. -/
theorem splits_of_ne {a b : Char} (hab : a ≠ b) {before after before' after' : List Char}
    (h : before ++ a :: after = before' ++ b :: after') :
    (∃ between, before' = before ++ a :: between ∧ after = between ++ b :: after') ∨
      ∃ between, before = before' ++ b :: between ∧ after' = between ++ a :: after := by
  rcases List.append_eq_append_iff.1 h with ⟨between, hbefore, hafter⟩ | ⟨between, hbefore, hafter⟩
  · cases between with
    | nil => exact absurd (List.cons.inj hafter).1 hab
    | cons c between =>
      cases hafter
      exact .inl ⟨between, hbefore, rfl⟩
  · cases between with
    | nil => exact absurd (List.cons.inj hafter).1.symm hab
    | cons c between =>
      cases hafter
      exact .inr ⟨between, hbefore, rfl⟩

end SqlDialects.Text
