import SqlDialects.Catalog.DefaultText
import SqlDialects.Proofs.Text.Doubling
import SqlDialects.Proofs.Text.Occurrence

/-!
# Defaults that begin with a literal

A default that begins with a literal is a string if nothing or a cast follows the literal, and an expression otherwise.
The reader looks for the end of the literal from the right: at the last quote in front of two colons, or else at the
last quote. So it takes the content of the literal for the default exactly if that search stops at the closing quote.
-/

namespace SqlDialects
namespace Catalog
open Text

/-- A quote that a cast stands behind. -/
def castMark : List Char :=
  ['\'', ':', ':']

/-- Two colons and a name of a type without quotes. -/
def IsCast (behind : List Char) : Prop :=
  ∃ typeName, behind = ':' :: ':' :: typeName ∧ '\'' ∉ typeName

/-- A text that is a literal and what stands behind it. In the literal a quote is written twice, and no further quote
stands right behind it. -/
structure BeginsWithLiteral (raw content : String) (behind : List Char) : Prop where
  text : raw.toList = '\'' :: (double '\'' content.toList ++ '\'' :: behind)
  closed : behind.head? ≠ some '\''

/-- What a default that begins with a literal says: the content of the literal, if nothing or a cast stands behind
it, and otherwise an expression. -/
inductive Says (raw content : String) : List Char → ReadDefault → Prop
  | literal : Says raw content [] ⟨some (.string content), false⟩
  | cast {behind : List Char} (h : IsCast behind) : Says raw content behind ⟨some (.string content), false⟩
  | expression {behind : List Char} (hne : behind ≠ []) (h : ¬ IsCast behind) :
    Says raw content behind ⟨some (.expression raw), false⟩

variable {content behind cs : List Char}

theorem castMark_ne_nil : castMark ≠ [] := nofun

theorem castMark_isPrefix_iff : castMark <+: '\'' :: cs ↔ [':', ':'] <+: cs := by
  simp [castMark, List.cons_prefix_cons]

/-- The cast marks are those of the content and those from the closing quote on. -/
theorem free_castMark_iff (content behind : List Char) : Free castMark (double '\'' content ++ '\'' :: behind) ↔
    Free castMark content ∧ Free castMark ('\'' :: behind) := by
  have hcolons : '\'' ∉ [':', ':'] := by decide
  induction content with
  | nil => simp [double, Free.nil castMark_ne_nil]
  | cons c content ih =>
    by_cases hc : c = '\''
    · subst hc
      have hpair : ¬ castMark <+: '\'' :: '\'' :: (double '\'' content ++ '\'' :: behind) := by
        simp [castMark, List.cons_prefix_cons]
      have hsecond : castMark <+: '\'' :: (double '\'' content ++ '\'' :: behind) ↔ castMark <+: '\'' :: content := by
        rw [castMark_isPrefix_iff, castMark_isPrefix_iff, ← isPrefix_double_iff hcolons content]
        exact ⟨isPrefix_of_notMem hcolons, fun h => h.trans (List.prefix_append _ _)⟩
      rw [double, if_pos rfl, List.cons_append, List.cons_append]
      rw [free_cons_iff '\'' ('\'' :: _), free_cons_iff '\'' (double '\'' content ++ _), free_cons_iff '\'' content]
      simp only [hpair, hsecond, ih, and_assoc, not_false_eq_true, true_and]
    · have hskip (cs : List Char) : ¬ castMark <+: c :: cs := by
        simp [castMark, List.cons_prefix_cons, Ne.symm hc]
      simp [double, hc, free_cons_iff, hskip, ih]

/-- The search for the end of the literal stops at its closing quote. If two colons stand behind it, there is no later
cast mark; otherwise there is no later quote, and no cast mark in the content. -/
def EndsAtLast (content behind : List Char) : Prop :=
  if [':', ':'] <+: behind then Free castMark behind else '\'' ∉ behind ∧ Free castMark content

theorem literalContent?_of_cut {before after : List Char} (h : cutLast? castMark cs = some (before, after)) :
    literalContent? cs = some (undouble '\'' before) := by
  unfold castMark at h
  simp [literalContent?, h]

theorem literalContent?_of_free {before after : List Char} (hfree : Free castMark cs)
    (h : cutLast? ['\''] cs = some (before, after)) : literalContent? cs = some (undouble '\'' before) := by
  have hnone := (cutLast?_eq_none_iff castMark_ne_nil).2 hfree
  unfold castMark at hnone
  simp [literalContent?, hnone, h]

theorem free_castMark_quote_iff :
    Free castMark ('\'' :: cs) ↔ ¬ [':', ':'] <+: cs ∧ Free castMark cs := by
  rw [free_cons_iff, castMark_isPrefix_iff]

theorem literalContent?_of_endsAtLast (h : EndsAtLast content behind) :
    literalContent? (double '\'' content ++ '\'' :: behind) = some content := by
  unfold EndsAtLast at h
  split at h
  · next hcolons =>
    obtain ⟨typeName, rfl⟩ := hcolons
    have hcut : cutLast? castMark (double '\'' content ++ '\'' :: ([':', ':'] ++ typeName)) =
        some (double '\'' content, typeName) :=
      (cutLast?_eq_some_iff castMark_ne_nil).2 ⟨by simp [castMark], h⟩
    rw [literalContent?_of_cut hcut, undouble_double]
  · next hcolons =>
    obtain ⟨hquote, hcontent⟩ := h
    have hbehind : Free castMark ('\'' :: behind) :=
      free_castMark_quote_iff.2 ⟨hcolons, Free.of_notMem (by simp [castMark]) hquote⟩
    have hcut : cutLast? ['\''] (double '\'' content ++ '\'' :: behind) = some (double '\'' content, behind) :=
      cutLast?_singleton_eq_some_iff.2 ⟨rfl, hquote⟩
    rw [literalContent?_of_free ((free_castMark_iff content behind).2 ⟨hcontent, hbehind⟩) hcut, undouble_double]

/-- A search that stops at a quote behind the literal has read more than its content. -/
theorem undouble_ne_of_stop {stop rest : List Char} (hclosed : behind.head? ≠ some '\'')
    (hbehind : behind = stop ++ '\'' :: rest) : undouble '\'' (double '\'' content ++ '\'' :: stop) ≠ content := by
  have hstop : stop.head? ≠ some '\'' := by
    cases stop with
    | nil => nofun
    | cons c stop => simpa [hbehind] using hclosed
  rw [undouble_double_append hstop]
  simp

/-- A search that stops at a cast mark of the content has read no more than the quote of that mark. -/
theorem literalContent?_of_inside {before after : List Char} (hbehind : Free castMark ('\'' :: behind))
    (hlast : Free castMark (castMark ++ after).tail) :
    literalContent? (double '\'' (before ++ castMark ++ after) ++ '\'' :: behind) = some (before ++ ['\'']) := by
  have hafter : Free castMark after := hlast.of_isInfix (List.suffix_append [':', ':'] after).isInfix
  have hfree : Free castMark (castMark ++ (double '\'' after ++ '\'' :: behind)).tail :=
    Free.cons (by decide) (Free.cons (by decide) ((free_castMark_iff after behind).2 ⟨hafter, hbehind⟩))
  have hcut : cutLast? castMark (double '\'' (before ++ castMark ++ after) ++ '\'' :: behind) =
      some (double '\'' before ++ ['\''], double '\'' after ++ '\'' :: behind) :=
    (cutLast?_eq_some_iff castMark_ne_nil).2 ⟨by simp [double_append, castMark, double], hfree⟩
  rw [literalContent?_of_cut hcut, undouble_double_append (by simp)]
  rfl

theorem exists_other_of_not_endsAtLast (hclosed : behind.head? ≠ some '\'') (h : ¬ EndsAtLast content behind) :
    ∃ read, read ≠ content ∧ literalContent? (double '\'' content ++ '\'' :: behind) = some read := by
  by_cases hmark : Free castMark behind
  · have hcolons : ¬ [':', ':'] <+: behind := fun hcolons => h (by rwa [EndsAtLast, if_pos hcolons])
    have hquoted : Free castMark ('\'' :: behind) := free_castMark_quote_iff.2 ⟨hcolons, hmark⟩
    rw [EndsAtLast, if_neg hcolons, not_and_or] at h
    by_cases hcontent : Free castMark content
    · obtain ⟨⟨stop, rest⟩, hstop⟩ := Option.ne_none_iff_exists'.1
        (mt cutLast?_singleton_eq_none_iff.1 (h.resolve_right (not_not.2 hcontent)))
      obtain ⟨hsplit, hrest⟩ := cutLast?_singleton_eq_some_iff.1 hstop
      have hcut : cutLast? ['\''] (double '\'' content ++ '\'' :: behind) =
          some (double '\'' content ++ '\'' :: stop, rest) :=
        cutLast?_singleton_eq_some_iff.2 ⟨by simp [hsplit], hrest⟩
      exact ⟨_, undouble_ne_of_stop hclosed hsplit,
        literalContent?_of_free ((free_castMark_iff content behind).2 ⟨hcontent, hquoted⟩) hcut⟩
    · obtain ⟨⟨before, after⟩, hlast⟩ := Option.ne_none_iff_exists'.1
        (mt (cutLast?_eq_none_iff castMark_ne_nil).1 hcontent)
      obtain ⟨rfl, hfree⟩ := (cutLast?_eq_some_iff castMark_ne_nil).1 hlast
      exact ⟨_, by simp [castMark], literalContent?_of_inside hquoted hfree⟩
  · obtain ⟨⟨stop, rest⟩, hstop⟩ := Option.ne_none_iff_exists'.1 (mt (cutLast?_eq_none_iff castMark_ne_nil).1 hmark)
    obtain ⟨hsplit, hfree⟩ := (cutLast?_eq_some_iff castMark_ne_nil).1 hstop
    have hcut : cutLast? castMark (double '\'' content ++ '\'' :: behind) =
        some (double '\'' content ++ '\'' :: stop, rest) :=
      (cutLast?_eq_some_iff castMark_ne_nil).2 ⟨by simp [hsplit], hfree⟩
    have hquote : behind = stop ++ '\'' :: ([':', ':'] ++ rest) := by simp [hsplit, castMark]
    exact ⟨_, undouble_ne_of_stop hclosed hquote, literalContent?_of_cut hcut⟩

theorem ne_of_head?_ne {s t : String} {c : Char} (hs : s.toList = c :: cs) (ht : t.toList.head? ≠ some c) : s ≠ t := by
  rintro rfl
  exact ht (by rw [hs]; rfl)

/-- A text that begins with a quote is none of the words with a meaning of their own. -/
theorem readDefault_of_quote {text : String} {read : List Char} (htext : (trimmed text).toList = '\'' :: cs)
    (hread : literalContent? cs = some read) : readDefault text = ⟨some (.string (String.ofList read)), false⟩ := by
  generalize hraw : trimmed text = raw at htext
  have hlower : raw.toLower.toList = '\'' :: cs.map Char.toLower := by
    have hmap : raw.toLower.toList = raw.toList.map Char.toLower := String.toList_map
    rw [hmap, htext, List.map_cons]
    rfl
  have hupper : raw.toUpper.toList = '\'' :: cs.map Char.toUpper := by
    have hmap : raw.toUpper.toList = raw.toList.map Char.toUpper := String.toList_map
    rw [hmap, htext, List.map_cons]
    rfl
  have hempty : raw.isEmpty = false := by
    simpa using ne_of_head?_ne (t := "") htext (by decide)
  have hnull : sameIgnoringCase raw "null" = false := by
    have hword : "null".toLower = "null" := by decide +kernel
    simpa [sameIgnoringCase, hword] using ne_of_head?_ne (t := "null") hlower (by decide)
  have hmoment : "CURRENT_TIMESTAMP".toList.isPrefixOf raw.toUpper.toList = false := by
    rw [hupper]
    rfl
  have hnow : raw.toUpper ≠ "NOW()" := ne_of_head?_ne hupper (by decide)
  simp only [readDefault, hraw, hempty, hnull, hmoment, hnow, htext, hread, Bool.or_self, Bool.false_eq_true,
    decide_false, if_false]

/-- Only the closing quote of the literal ends its content. -/
theorem readDefault_of_literal {text content : String} {behind : List Char}
    (h : BeginsWithLiteral (trimmed text) content behind) :
    (∃ read, readDefault text = ⟨some (.string read), false⟩) ∧
      (readDefault text = ⟨some (.string content), false⟩ ↔ EndsAtLast content.toList behind) := by
  by_cases hlast : EndsAtLast content.toList behind
  · have hread := readDefault_of_quote h.text (literalContent?_of_endsAtLast hlast)
    rw [String.ofList_toList] at hread
    exact ⟨⟨content, hread⟩, fun _ => hlast, fun _ => hread⟩
  · obtain ⟨read, hother, hcontent⟩ := exists_other_of_not_endsAtLast h.closed hlast
    have hread := readDefault_of_quote h.text hcontent
    refine ⟨⟨_, hread⟩, fun hsame => absurd ?_ hother, fun hends => absurd hends hlast⟩
    rw [hread] at hsame
    simpa [← String.toList_inj] using hsame

theorem IsCast.endsAtLast (h : IsCast behind) (content : List Char) : EndsAtLast content behind := by
  obtain ⟨typeName, rfl, hname⟩ := h
  have hcolons : [':', ':'] <+: ':' :: ':' :: typeName := List.prefix_append [':', ':'] typeName
  have hquote : '\'' ∉ ':' :: ':' :: typeName := by simpa using hname
  rw [EndsAtLast, if_pos hcolons]
  exact Free.of_notMem (by simp [castMark]) hquote

theorem endsAtLast_nil_iff (content : List Char) : EndsAtLast content [] ↔ Free castMark content := by
  simp [EndsAtLast]

theorem says_readDefault_iff {text content : String} {behind : List Char}
    (h : BeginsWithLiteral (trimmed text) content behind) :
    Says (trimmed text) content behind (readDefault text) ↔
      IsCast behind ∨ (behind = [] ∧ Free castMark content.toList) := by
  obtain ⟨⟨read, hread⟩, hcontent⟩ := readDefault_of_literal h
  constructor
  · intro hsays
    generalize hresult : readDefault text = result at hsays
    cases hsays with
    | literal => exact .inr ⟨rfl, (endsAtLast_nil_iff _).1 (hcontent.1 hresult)⟩
    | cast hcast => exact .inl hcast
    | expression hne hcast => cases hread.symm.trans hresult
  · rintro (hcast | ⟨rfl, hfree⟩)
    · rw [hcontent.2 (hcast.endsAtLast _)]
      exact .cast hcast
    · rw [hcontent.2 ((endsAtLast_nil_iff _).2 hfree)]
      exact .literal

theorem flatMap_quotedChar_eq_double {d : Dialect} (hd : d ≠ .mysql) (cs : List Char) :
    cs.flatMap d.quotedChar = double '\'' cs := by
  refine flatMap_eq_double ?_ (fun c hc => ?_) cs
  · cases d <;> simp_all [Dialect.quotedChar]
  · cases d <;> simp_all [Dialect.quotedChar]

theorem beginsWithLiteral_quoteString {d : Dialect} (hd : d ≠ .mysql) (s : String) :
    BeginsWithLiteral (trimmed (d.quoteString s)) s [] where
  text := by
    simp only [trimmed, Dialect.quoteString, Dialect.inQuotes, flatMap_quotedChar_eq_double hd, String.toList_ofList,
      List.cons_append]
    exact trim_quoted _
  closed := by simp

/-- A default that begins with a literal is never read as an expression. It is read as what it says exactly if a cast
stands behind the literal, or nothing does and no cast mark stands in its content; its content is read exactly if the
search from the right stops at its closing quote. So a string is read back from its written form, with quotes
doubled, exactly if it has no cast mark. -/
theorem readDefault_says_iff (content : String) :
    (∀ text behind, BeginsWithLiteral (trimmed text) content behind →
      (Says (trimmed text) content behind (readDefault text) ↔
        IsCast behind ∨ (behind = [] ∧ Free castMark content.toList)) ∧
      (∃ read, readDefault text = ⟨some (.string read), false⟩) ∧
      (readDefault text = ⟨some (.string content), false⟩ ↔ EndsAtLast content.toList behind)) ∧
    ∀ d : Dialect, d ≠ .mysql →
      (readDefault (d.quoteString content) = ⟨some (.string content), false⟩ ↔ Free castMark content.toList) := by
  constructor
  · intro text behind h
    exact ⟨says_readDefault_iff h, readDefault_of_literal h⟩
  · intro d hd
    rw [(readDefault_of_literal (beginsWithLiteral_quoteString hd content)).2, endsAtLast_nil_iff]

/-- With a cast behind it a literal with a cast mark in it is read as its content, and without one it is not. An
operator with a further literal is not read as an expression. -/
theorem readDefault_says_iff_of_marks :
    let marked := "'it''::x'"
    let cast := "'it''::x'::text"
    let joined := "'a' || 'b'"
    (BeginsWithLiteral (trimmed cast) "it'::x" "::text".toList ∧
      Says (trimmed cast) "it'::x" "::text".toList (readDefault cast)) ∧
    (BeginsWithLiteral (trimmed marked) "it'::x" [] ∧ ¬ Says (trimmed marked) "it'::x" [] (readDefault marked)) ∧
    BeginsWithLiteral (trimmed joined) "a" " || 'b'".toList ∧
      ¬ Says (trimmed joined) "a" " || 'b'".toList (readDefault joined) := by
  intro marked cast joined
  have hcast : BeginsWithLiteral (trimmed cast) "it'::x" "::text".toList := ⟨by decide +kernel, by decide⟩
  have hmarked : BeginsWithLiteral (trimmed marked) "it'::x" [] := ⟨by decide +kernel, by decide⟩
  have hjoined : BeginsWithLiteral (trimmed joined) "a" " || 'b'".toList := ⟨by decide +kernel, by decide⟩
  refine ⟨⟨hcast, ?_⟩, ⟨hmarked, ?_⟩, hjoined, ?_⟩
  · exact ((readDefault_says_iff _).1 cast _ hcast).1.2 (.inl ⟨"text".toList, by decide, by decide⟩)
  · rw [((readDefault_says_iff _).1 marked _ hmarked).1]
    rintro (⟨typeName, hname, _⟩ | ⟨_, hfree⟩)
    · cases hname
    · exact hfree ⟨"it".toList, "x".toList, by decide⟩
  · rw [((readDefault_says_iff _).1 joined _ hjoined).1]
    rintro (⟨typeName, hname, _⟩ | ⟨hnil, _⟩)
    · exact absurd hname (by simp)
    · exact absurd hnil (by decide)

end Catalog
end SqlDialects
