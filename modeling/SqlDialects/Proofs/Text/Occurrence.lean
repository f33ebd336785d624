import Mathlib.Data.List.Infix
import SqlDialects.Dialect.Literal
import SqlDialects.Proofs.Text.Doubling

/-! # What stands in a text, and on which line

A pattern stands nowhere in a text if it stands in none of the pieces between characters that it does not have. A
text of lines is read line by line, and a character that is not trimmed keeps all before it. -/

namespace SqlDialects.Text

variable {pat cs xs ys : List Char} {q c : Char}

theorem occurs_iff_isInfix : occurs pat cs = true ↔ pat <:+: cs := by
  induction cs with
  | nil => simp [occurs]
  | cons c cs ih => rw [occurs, Bool.or_eq_true, List.isPrefixOf_iff_prefix, ih, List.infix_cons_iff]

/-- The pattern stands nowhere in the text. -/
def Free (pat cs : List Char) : Prop :=
  ¬ pat <:+: cs

theorem free_iff_occurs : Free pat cs ↔ occurs pat cs = false := by
  rw [Free, ← occurs_iff_isInfix, Bool.not_eq_true]

theorem isPrefix_of_notMem (hq : q ∉ pat) (h : pat <+: xs ++ q :: ys) : pat <+: xs := by
  induction pat generalizing xs with
  | nil => exact List.nil_prefix
  | cons p pat ih =>
    obtain ⟨hp, hpat⟩ := List.ne_and_not_mem_of_not_mem_cons hq
    cases xs with
    | nil => exact absurd (List.cons_prefix_cons.1 h).1.symm hp
    | cons x xs =>
      obtain ⟨rfl, hrest⟩ := List.cons_prefix_cons.1 h
      exact List.cons_prefix_cons.2 ⟨rfl, ih hpat hrest⟩

theorem quotedChar_plain (hc : c ≠ '\'') : Dialect.quotedChar .sqlite c = [c] := by
  simp [Dialect.quotedChar]

theorem isPrefix_of_flatMap_quotedChar (hpat : '\'' ∉ pat) (h : pat <+: xs.flatMap (Dialect.quotedChar .sqlite)) :
    pat <+: xs := by
  induction xs generalizing pat with
  | nil => exact h
  | cons x xs ih =>
    rw [List.flatMap_cons] at h
    by_cases hx : x = '\''
    · subst hx
      have hnil : pat <+: [] := isPrefix_of_notMem hpat h
      exact (List.prefix_nil.1 hnil) ▸ List.nil_prefix
    · cases pat with
      | nil => exact List.nil_prefix
      | cons p pat =>
        rw [quotedChar_plain hx] at h
        obtain ⟨rfl, hrest⟩ := List.cons_prefix_cons.1 h
        exact List.cons_prefix_cons.2 ⟨rfl, ih (List.not_mem_of_not_mem_cons hpat) hrest⟩

namespace Free

theorem of_isInfix (h : Free pat ys) (hxs : xs <:+: ys) : Free pat xs :=
  fun hpat => h (hpat.trans hxs)

theorem of_notMem (hx : c ∈ pat) (h : c ∉ cs) : Free pat cs :=
  fun hpat => h (hpat.subset hx)

theorem ne_nil (h : Free pat cs) : pat ≠ [] := by
  rintro rfl
  exact h List.nil_infix

theorem nil (hpat : pat ≠ []) : Free pat [] :=
  fun h => hpat (List.infix_nil.1 h)

theorem cons (hc : pat.head? ≠ some c) (h : Free pat cs) : Free pat (c :: cs) := by
  intro hpat
  rcases List.infix_cons_iff.1 hpat with hpre | hrest
  · cases pat with
    | nil => exact h List.nil_infix
    | cons p pat => exact hc (congrArg some (List.cons_prefix_cons.1 hpre).1)
  · exact h hrest

theorem prepend (hxs : ∀ x ∈ xs, pat.head? ≠ some x) (h : Free pat cs) : Free pat (xs ++ cs) := by
  induction xs with
  | nil => exact h
  | cons x xs ih =>
    obtain ⟨hx, hxs⟩ := List.forall_mem_cons.1 hxs
    exact cons hx (ih hxs)

theorem concat (hc : pat.getLast? ≠ some c) (h : Free pat cs) : Free pat (cs ++ [c]) := by
  intro hpat
  rcases List.infix_concat_iff.1 hpat with hsuffix | hrest
  · rcases List.suffix_concat_iff.1 hsuffix with rfl | ⟨front, rfl, _⟩
    · exact h List.nil_infix
    · exact hc (by simp)
  · exact h hrest

theorem append (hq : q ∉ pat) (hx : Free pat xs) (hy : Free pat ys) : Free pat (xs ++ q :: ys) := by
  induction xs with
  | nil => exact cons (fun hhead => hq (List.mem_of_mem_head? hhead)) hy
  | cons x xs ih =>
    intro hpat
    rcases List.infix_cons_iff.1 hpat with hpre | hrest
    · have hhead : pat <+: x :: xs := isPrefix_of_notMem hq hpre
      exact hx hhead.isInfix
    · exact ih (hx.of_isInfix (List.suffix_cons x xs).isInfix) hrest

/-- Where quotes are doubled there is no more of a pattern without quotes than before. -/
theorem flatMap_quotedChar (hpat : '\'' ∉ pat) (h : Free pat cs) :
    Free pat (cs.flatMap (Dialect.quotedChar .sqlite)) := by
  have hquote : pat.head? ≠ some '\'' := fun hhead => hpat (List.mem_of_mem_head? hhead)
  induction cs with
  | nil => exact h
  | cons x xs ih =>
    have hrest := ih (h.of_isInfix (List.suffix_cons x xs).isInfix)
    by_cases hx : x = '\''
    · subst hx
      exact cons hquote (cons hquote hrest)
    · intro hinfix
      have hchar : (x :: xs).flatMap (Dialect.quotedChar .sqlite) =
          x :: xs.flatMap (Dialect.quotedChar .sqlite) := by
        rw [List.flatMap_cons, quotedChar_plain hx, List.singleton_append]
      rcases List.infix_cons_iff.1 (hchar ▸ hinfix) with hpre | hin
      · exact h (isPrefix_of_flatMap_quotedChar hpat (hchar ▸ hpre)).isInfix
      · exact hrest hin

end Free

theorem free_cons_iff (c : Char) (cs : List Char) : Free pat (c :: cs) ↔ ¬ pat <+: c :: cs ∧ Free pat cs := by
  simp only [Free, List.infix_cons_iff, not_or]

theorem free_append_iff (hq : q ∉ pat) : Free pat (xs ++ q :: ys) ↔ Free pat xs ∧ Free pat ys := by
  constructor
  · intro h
    have hsuffix : ys <:+ xs ++ q :: ys := ⟨xs ++ [q], by simp⟩
    exact ⟨h.of_isInfix (List.prefix_append _ _).isInfix, h.of_isInfix hsuffix.isInfix⟩
  · rintro ⟨hx, hy⟩
    exact .append hq hx hy

theorem free_lineFeed_iff {cs : List Char} : Free ['\n'] cs ↔ '\n' ∉ cs := by
  rw [Free, List.singleton_infix_iff]

/-- Where quotes are doubled there is as much of a pattern without quotes as before. -/
theorem free_double_iff (hq : q ∉ pat) : Free pat (double q cs) ↔ Free pat cs := by
  induction cs with
  | nil => rfl
  | cons c cs ih =>
    by_cases hc : c = q
    · subst hc
      have hquote (rest : List Char) : pat <+: c :: rest ↔ pat <+: c :: cs := by
        cases pat with
        | nil => simp
        | cons p pat =>
          have hp : p ≠ c := (List.ne_of_not_mem_cons hq).symm
          simp [List.cons_prefix_cons, hp]
      rw [double, if_pos rfl, free_cons_iff, free_cons_iff, free_cons_iff, ih,
        hquote (c :: double c cs), hquote (double c cs), and_self_left]
    · have hplain := isPrefix_double_iff hq (c :: cs)
      rw [double, if_neg hc] at hplain ⊢
      rw [free_cons_iff, free_cons_iff, ih, hplain]

theorem cutLast?_eq_none_iff (hpat : pat ≠ []) : cutLast? pat cs = none ↔ Free pat cs := by
  induction cs with
  | nil => simp [cutLast?, hpat, Free.nil hpat]
  | cons c cs ih =>
    rw [cutLast?, free_cons_iff, ← ih]
    split
    · next hcut => simp [hcut]
    · next hcut => simp [hcut]

/-- The cut is at the last place of the pattern: none begins further behind. -/
theorem cutLast?_eq_some_iff {before after : List Char} (hpat : pat ≠ []) :
    cutLast? pat cs = some (before, after) ↔ cs = before ++ pat ++ after ∧ Free pat (pat ++ after).tail := by
  constructor
  · intro h
    refine ⟨eq_append_of_cutLast? h, ?_⟩
    induction cs generalizing before after with
    | nil => simp [cutLast?, hpat] at h
    | cons c cs ih =>
      rw [cutLast?] at h
      split at h
      · next hcut =>
        cases h
        exact ih hcut
      · next hcut =>
        split at h
        · next hpre =>
          cases h
          rw [List.prefix_iff_eq_append.1 (List.isPrefixOf_iff_prefix.1 hpre)]
          exact (cutLast?_eq_none_iff hpat).1 hcut
        · cases h
  · rintro ⟨rfl, hfree⟩
    induction before with
    | nil =>
      obtain ⟨p, rest, rfl⟩ := List.exists_cons_of_ne_nil hpat
      have hbehind : cutLast? (p :: rest) (rest ++ after) = none := (cutLast?_eq_none_iff hpat).2 hfree
      simp [cutLast?, hbehind]
    | cons b before ih => simp only [List.cons_append, cutLast?, ih]

theorem notMem_intercalate {sep : List Char} {parts : List (List Char)} (hsep : c ∉ sep)
    (h : ∀ part ∈ parts, c ∉ part) : c ∉ sep.intercalate parts := by
  induction parts with
  | nil => simp
  | cons part parts ih =>
    obtain ⟨hpart, hparts⟩ := List.forall_mem_cons.1 h
    cases parts with
    | nil => simpa using hpart
    | cons next parts =>
      rw [List.intercalate_cons_cons, List.mem_append, List.mem_append]
      exact not_or.2 ⟨not_or.2 ⟨hpart, hsep⟩, ih hparts⟩

theorem isInfix_intercalate {sep part : List Char} {parts : List (List Char)} (h : part ∈ parts) :
    part <:+: sep.intercalate parts := by
  induction parts with
  | nil => cases h
  | cons first parts ih =>
    cases parts with
    | nil => simpa using List.mem_singleton.1 h ▸ List.infix_rfl
    | cons next parts =>
      rw [List.intercalate_cons_cons]
      rcases List.mem_cons.1 h with rfl | h
      · rw [List.append_assoc]
        exact (List.prefix_append _ _).isInfix
      · exact (ih h).trans (List.suffix_append _ _).isInfix

/-! ## Lines -/

theorem splitAt_append (sep : Char) (xs ys : List Char) :
    Text.splitAt sep (xs ++ sep :: ys) = Text.splitAt sep xs ++ Text.splitAt sep ys := by
  induction xs with
  | nil => simp [Text.splitAt]
  | cons x xs ih =>
    by_cases hx : x = sep
    · simp [Text.splitAt, hx, ih]
    · cases hparts : Text.splitAt sep xs with
      | nil => exact absurd hparts (splitAt_ne_nil sep xs)
      | cons part parts => simp [Text.splitAt, hx, ih, hparts]

theorem splitAt_of_notMem {sep : Char} (h : sep ∉ xs) : Text.splitAt sep xs = [xs] := by
  induction xs with
  | nil => rfl
  | cons x xs ih =>
    obtain ⟨hx, hxs⟩ := List.ne_and_not_mem_of_not_mem_cons h
    simp [Text.splitAt, hx.symm, ih hxs]

theorem exists_splitAt_append {sep : Char} {xs : List Char} (h : sep ∉ xs) (ys : List Char) :
    ∃ part parts, Text.splitAt sep (xs ++ ys) = (xs ++ part) :: parts := by
  induction xs with
  | nil => exact List.exists_cons_of_ne_nil (splitAt_ne_nil sep ys)
  | cons x xs ih =>
    obtain ⟨hx, hxs⟩ := List.ne_and_not_mem_of_not_mem_cons h
    obtain ⟨part, parts, hparts⟩ := ih hxs
    refine ⟨part, parts, ?_⟩
    rw [List.cons_append, Text.splitAt, if_neg hx.symm, hparts]
    rfl

theorem splitAt_intercalate_eq_flatMap (sep : Char) {parts : List (List Char)} (hne : parts ≠ []) :
    Text.splitAt sep ([sep].intercalate parts) = parts.flatMap (Text.splitAt sep) := by
  induction parts with
  | nil => exact absurd rfl hne
  | cons part parts ih =>
    cases parts with
    | nil => simp
    | cons next parts =>
      have hrest := ih (List.cons_ne_nil next parts)
      rw [List.intercalate_cons_cons, List.append_assoc, List.singleton_append, splitAt_append, hrest]
      rfl

theorem splitAt_intercalate {sep : Char} {parts : List (List Char)} (hne : parts ≠ [])
    (h : ∀ part ∈ parts, sep ∉ part) : Text.splitAt sep ([sep].intercalate parts) = parts := by
  have hone : ∀ part ∈ parts, Text.splitAt sep part = [part] := fun part hpart => splitAt_of_notMem (h part hpart)
  rw [splitAt_intercalate_eq_flatMap sep hne, List.flatMap_congr hone, List.flatMap_singleton']

theorem notMem_of_mem_splitAt {sep : Char} {part : List Char} (h : part ∈ Text.splitAt sep cs) : sep ∉ part := by
  induction cs generalizing part with
  | nil => simp_all [Text.splitAt]
  | cons c cs ih =>
    by_cases hc : c = sep
    · simp only [Text.splitAt, hc, if_true, List.mem_cons] at h
      rcases h with rfl | h
      · simp
      · exact ih h
    · cases hparts : Text.splitAt sep cs with
      | nil => exact absurd hparts (splitAt_ne_nil sep cs)
      | cons first parts =>
        rw [hparts] at ih
        simp only [Text.splitAt, hc, if_false, hparts, List.mem_cons] at h
        rcases h with rfl | h
        · simpa [Ne.symm hc] using ih List.mem_cons_self
        · exact ih (List.mem_cons_of_mem first h)

theorem terminated_cons {rest : List (List Char)} (hrest : rest ≠ []) (line : List Char) :
    lines.terminated (line :: rest) = lines.dropReturn line :: lines.terminated rest := by
  cases rest with
  | nil => exact absurd rfl hrest
  | cons next rest => rfl

theorem terminated_append {rest : List (List Char)} (hrest : rest ≠ []) (parts : List (List Char)) :
    lines.terminated (parts ++ rest) = parts.map lines.dropReturn ++ lines.terminated rest := by
  induction parts with
  | nil => rfl
  | cons part parts ih =>
    rw [List.cons_append, terminated_cons (List.append_ne_nil_of_right_ne_nil parts hrest), ih]
    rfl

theorem lines_append (xs ys : List Char) :
    lines (xs ++ '\n' :: ys) = (Text.splitAt '\n' xs).map lines.dropReturn ++ lines ys := by
  rw [lines, splitAt_append, terminated_append (splitAt_ne_nil '\n' ys)]
  rfl

theorem lines_line (h : '\n' ∉ xs) (ys : List Char) :
    lines (xs ++ '\n' :: ys) = lines.dropReturn xs :: lines ys := by
  rw [lines_append, splitAt_of_notMem h]
  rfl

theorem dropReturn_cons (h : c ≠ '\r' ∨ xs ≠ []) : lines.dropReturn (c :: xs) = c :: lines.dropReturn xs := by
  cases xs with
  | nil =>
    have hc : c ≠ '\r' := by simpa using h
    simp [lines.dropReturn, hc]
  | cons x xs => simp [lines.dropReturn]

theorem dropReturn_append (hc : c ≠ '\r') (xs ys : List Char) :
    lines.dropReturn (xs ++ c :: ys) = xs ++ c :: lines.dropReturn ys := by
  induction xs with
  | nil => exact dropReturn_cons (.inl hc)
  | cons x xs ih =>
    have hrest : xs ++ c :: ys ≠ [] := by simp
    rw [List.cons_append, dropReturn_cons (.inr hrest), ih]
    rfl

theorem dropReturn_isPrefix (xs : List Char) : lines.dropReturn xs <+: xs := by
  induction xs with
  | nil => exact List.nil_prefix
  | cons x xs ih =>
    by_cases h : x ≠ '\r' ∨ xs ≠ []
    · rw [dropReturn_cons h]
      exact List.cons_prefix_cons.2 ⟨rfl, ih⟩
    · obtain ⟨rfl, rfl⟩ : x = '\r' ∧ xs = [] := by simpa using h
      exact List.nil_prefix

theorem dropEndWhile_isPrefix (p : Char → Bool) (xs : List Char) : dropEndWhile p xs <+: xs := by
  have hsuffix := List.dropWhile_suffix (l := xs.reverse) p
  simpa [dropEndWhile] using List.reverse_prefix.2 hsuffix

theorem dropEndWhile_append {p : Char → Bool} (hc : p c = false) (xs ys : List Char) :
    dropEndWhile p (xs ++ c :: ys) = xs ++ c :: dropEndWhile p ys := by
  have hreverse : (xs ++ c :: ys).reverse = ys.reverse ++ c :: xs.reverse := by simp
  rw [dropEndWhile, dropEndWhile, hreverse, List.dropWhile_append]
  by_cases hys : ys.reverse.dropWhile p = []
  · simp [hys, hc]
  · simp [hys]

/-- A text between quotes has no blanks at its ends. -/
theorem trim_quoted (xs : List Char) : trim ('\'' :: (xs ++ ['\''])) = '\'' :: (xs ++ ['\'']) := by
  rw [trim, trimEnds, List.dropWhile_cons_of_neg (by decide)]
  exact dropEndWhile_append_singleton (by decide) ('\'' :: xs)

theorem dropEndWhile_append_of_all {p : Char → Bool} (hc : p c = true) (xs : List Char) :
    dropEndWhile p (xs ++ [c]) = dropEndWhile p xs := by
  simp [dropEndWhile, hc]

end SqlDialects.Text
