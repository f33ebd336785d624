import Mathlib.Data.List.DropRight
import SqlDialects.Text.Blank
import SqlDialects.Text.Search

/-!
# Characters written twice

What becomes of a text in which one character is written twice wherever it stands, and how it is read back.
-/

namespace SqlDialects.Text

variable {pat cs after : List Char} {q c : Char}

/-- Writing character by character, one of them twice. -/
theorem flatMap_eq_double {f : Char → List Char} (hq : f q = [q, q]) (hother : ∀ c, c ≠ q → f c = [c])
    (cs : List Char) : cs.flatMap f = double q cs := by
  induction cs with
  | nil => rfl
  | cons c cs ih =>
    rw [List.flatMap_cons, ih]
    by_cases hc : c = q
    · subst hc
      rw [double, if_pos rfl, hq]
      rfl
    · rw [double, if_neg hc, hother c hc]
      rfl

theorem double_eq_flatMap (q : Char) (cs : List Char) :
    double q cs = cs.flatMap fun c => if c = q then [q, q] else [c] :=
  (flatMap_eq_double (if_pos rfl) (fun _ hc => if_neg hc) cs).symm

theorem mem_double : c ∈ double q cs ↔ c ∈ cs := by
  induction cs with
  | nil => rfl
  | cons d cs ih =>
    by_cases hd : d = q
    · simp [double, hd, ih]
    · simp [double, hd, ih]

theorem length_double (q : Char) (cs : List Char) : (double q cs).length = cs.length + cs.count q := by
  induction cs with
  | nil => rfl
  | cons c cs ih =>
    by_cases hc : c = q
    · subst hc
      simp only [double, if_true, List.length_cons, ih, List.count_cons_self]
      omega
    · simp only [double, hc, if_false, List.length_cons, ih, List.count_cons_of_ne hc]
      omega

theorem double_eq_self_iff : double q cs = cs ↔ q ∉ cs := by
  refine ⟨fun h => ?_, double_of_notMem⟩
  have hlength := length_double q cs
  rw [h] at hlength
  exact List.count_eq_zero.1 (by omega)

theorem double_append (q : Char) (xs ys : List Char) : double q (xs ++ ys) = double q xs ++ double q ys := by
  simp only [double_eq_flatMap, List.flatMap_append]

theorem double_reverse (q : Char) (cs : List Char) : double q cs.reverse = (double q cs).reverse := by
  rw [double_eq_flatMap, double_eq_flatMap, List.reverse_flatMap]
  refine List.flatMap_congr fun c _ => ?_
  by_cases hc : c = q
  · simp [hc]
  · simp [hc]

theorem dropWhile_double (q : Char) (cs : List Char) :
    (double q cs).dropWhile (· = q) = double q (cs.dropWhile (· = q)) := by
  induction cs with
  | nil => rfl
  | cons c cs ih =>
    by_cases hc : c = q
    · simpa [double, hc] using ih
    · simp [double, hc]

/-- Doubled quotes are cut off the ends as single ones are. -/
theorem trimEnds_double (q : Char) (cs : List Char) :
    trimEnds (· = q) (double q cs) = double q (trimEnds (· = q) cs) := by
  rw [trimEnds, trimEnds, dropEndWhile, dropEndWhile, dropWhile_double, ← double_reverse, dropWhile_double,
    double_reverse]

theorem undouble_cons_of_ne (hc : c ≠ q) (cs : List Char) : undouble q (c :: cs) = c :: undouble q cs := by
  cases cs with
  | nil => rfl
  | cons c' cs => simp [undouble, hc]

theorem mem_of_mem_undouble (h : c ∈ undouble q cs) : c ∈ cs := by
  fun_induction undouble q cs with
  | case1 => exact h
  | case2 => exact h
  | case3 c' c'' cs hpair ih => grind
  | case4 c' c'' cs hpair ih => grind

/-- Behind what was doubled, a quote without a partner stays. -/
theorem undouble_double_append (h : after.head? ≠ some q) (cs : List Char) :
    undouble q (double q cs ++ q :: after) = cs ++ q :: undouble q after := by
  induction cs with
  | nil =>
    cases after with
    | nil => rfl
    | cons c after =>
      have hc : c ≠ q := fun hc => h (congrArg some hc)
      simp [double, undouble, hc]
  | cons c cs ih =>
    by_cases hc : c = q
    · subst hc
      simp [double, undouble, ih]
    · simp [double, hc, undouble_cons_of_ne hc, ih]

theorem isPrefix_double_iff (hq : q ∉ pat) (cs : List Char) : pat <+: double q cs ↔ pat <+: cs := by
  induction cs generalizing pat with
  | nil => rfl
  | cons c cs ih =>
    cases pat with
    | nil => simp
    | cons p pat =>
      obtain ⟨hp, hpat⟩ := List.ne_and_not_mem_of_not_mem_cons hq
      by_cases hc : c = q
      · simp [double, hc, List.cons_prefix_cons, hp.symm]
      · simp [double, hc, List.cons_prefix_cons, ih hpat]

end SqlDialects.Text
