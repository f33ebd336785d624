import Mathlib.Data.List.DropRight
import SqlDialects.Catalog.ValueList
import SqlDialects.Dialect.Literal
import SqlDialects.Proofs.Text.Doubling
import SqlDialects.Proofs.Text.Occurrence

/-!
# The members that MySQL reports

MySQL reports the members of an enumeration or a set between quotes, with the quotes in them doubled and commas
between them. The load cuts this text at every comma and then cuts the quotes off both ends of each part. So each
member is read on its own, and it is given back exactly if it has neither a comma nor a quote.
-/

namespace SqlDialects

namespace Text

variable {p : Char → Bool} {cs ds : List Char}

theorem dropWhile_of_notMem {q : Char} {cs : List Char} (h : q ∉ cs) : cs.dropWhile (· = q) = cs := by
  cases cs with
  | nil => rfl
  | cons c cs =>
    have hc : c ≠ q := (List.ne_of_not_mem_cons h).symm
    rw [List.dropWhile_cons_of_neg (by simpa using hc)]

theorem dropEndWhile_of_notMem {q : Char} {cs : List Char} (h : q ∉ cs) : dropEndWhile (· = q) cs = cs := by
  rw [dropEndWhile, dropWhile_of_notMem (mt List.mem_reverse.1 h), List.reverse_reverse]

theorem dropWhile_eq_self_of_isPrefix (hbegins : ds <+: cs) (h : cs.dropWhile p = cs) : ds.dropWhile p = ds := by
  cases ds with
  | nil => rfl
  | cons d ds =>
    obtain ⟨rest, rfl⟩ := hbegins
    have hd : ¬ p d = true := by simpa using List.dropWhile_eq_self_iff.1 h (by simp)
    exact List.dropWhile_cons_of_neg hd

theorem trimEnds_trimEnds (p : Char → Bool) (cs : List Char) : trimEnds p (trimEnds p cs) = trimEnds p cs := by
  have hstart : (trimEnds p cs).dropWhile p = trimEnds p cs :=
    dropWhile_eq_self_of_isPrefix (dropEndWhile_isPrefix p _) (List.dropWhile_idempotent p cs)
  have hend : dropEndWhile p (trimEnds p cs) = trimEnds p cs := by
    rw [trimEnds, dropEndWhile, dropEndWhile, List.reverse_reverse, List.dropWhile_idempotent]
  rw [trimEnds, hstart, hend]

/-- Cutting off what is in the class does not notice one more of it at each end. -/
theorem trimEnds_between {q : Char} (hq : p q = true) (cs : List Char) :
    trimEnds p (q :: (cs ++ [q])) = trimEnds p cs := by
  rw [trimEnds, trimEnds, List.dropWhile_cons_of_pos hq, List.dropWhile_append]
  by_cases hall : cs.dropWhile p = []
  · simp [hall, hq]
  · simpa [hall] using dropEndWhile_append_of_all hq _

theorem mem_of_mem_trimEnds {c : Char} (h : c ∈ trimEnds p cs) : c ∈ cs :=
  (List.dropWhile_suffix p).mem ((dropEndWhile_isPrefix p _).mem h)

end Text

namespace Dialect
open Text

theorem toList_standardString (s : String) :
    (standardString s).toList = '\'' :: (double '\'' s.toList ++ ['\'']) := by
  rw [standardString, inQuotes, String.toList_ofList, double_eq_flatMap]
  rfl

end Dialect

namespace Catalog
open Text

theorem splitList_intercalate (isQuote : Char → Bool) {parts : List (List Char)} (hne : parts ≠ []) :
    splitList isQuote ([','].intercalate parts) = parts.flatMap (splitList isQuote) := by
  rw [splitList, splitAt_intercalate_eq_flatMap ',' hne, List.map_flatMap, List.filter_flatMap, List.map_flatMap]
  rfl

theorem splitList_append (isQuote : Char → Bool) (xs ys : List Char) :
    splitList isQuote (xs ++ ',' :: ys) = splitList isQuote xs ++ splitList isQuote ys := by
  rw [splitList, splitAt_append, List.map_append, List.filter_append, List.map_append]
  rfl

theorem comma_notMem_of_mem_splitList {isQuote : Char → Bool} {cs : List Char} {item : String}
    (h : item ∈ splitList isQuote cs) : ',' ∉ item.toList := by
  obtain ⟨kept, hkept, rfl⟩ := List.mem_map.1 h
  obtain ⟨part, hpart, rfl⟩ := List.mem_map.1 (List.mem_of_mem_filter hkept)
  rw [String.toList_ofList]
  exact fun hcomma => notMem_of_mem_splitAt hpart (mem_of_mem_trimEnds (mem_of_mem_trimEnds hcomma))

namespace MySql

/-- The members of an enumeration or a set as MySQL writes them: in quotes, with the quotes in them doubled. -/
def quotedMembers (values : List String) : String :=
  ",".intercalate (values.map Dialect.standardString)

/-- What one member is read as, from its quoted text. -/
def readMember (v : String) : List String :=
  splitList (· = '\'') (Dialect.standardString v).toList

theorem splitList_quotedMembers {values : List String} (hne : values ≠ []) :
    splitList (· = '\'') (quotedMembers values).toList = values.flatMap readMember := by
  rw [quotedMembers, String.toList_intercalate, List.map_map]
  exact (splitList_intercalate _ (by simpa using hne)).trans (List.flatMap_map ..)

/-- A member without commas loses the quotes at its ends, and those inside stay doubled. -/
theorem readMember_of_notMem {v : String} (hcomma : ',' ∉ v.toList) :
    readMember v = ([double '\'' (trimEnds (· = '\'') v.toList)].filter (!·.isEmpty)).map String.ofList := by
  have htext : ',' ∉ (Dialect.standardString v).toList := by
    simpa [Dialect.toList_standardString, mem_double] using hcomma
  rw [readMember, splitList, splitAt_of_notMem htext, List.map_singleton, Dialect.toList_standardString, trim_quoted,
    trimEnds_between (by simp), trimEnds_double]

theorem readMember_eq_singleton_iff {v : String} (hv : v ≠ "") (hcomma : ',' ∉ v.toList) :
    readMember v = [v] ↔ '\'' ∉ v.toList := by
  rw [readMember_of_notMem hcomma]
  constructor
  · intro h
    have hread : double '\'' (trimEnds (· = '\'') v.toList) = v.toList := by
      generalize double '\'' (trimEnds (· = '\'') v.toList) = read at h
      cases read with
      | nil => cases h
      | cons c read =>
        obtain rfl := (List.cons.inj h).1
        exact String.toList_ofList.symm
    -- What was read has no quotes at its ends, so none were cut off.
    have htrim : trimEnds (· = '\'') v.toList = v.toList := by
      rw [← hread, trimEnds_double, trimEnds_trimEnds]
    rw [htrim] at hread
    exact double_eq_self_iff.1 hread
  · intro hquote
    have htrim : trimEnds (· = '\'') v.toList = v.toList := by
      rw [trimEnds, dropWhile_of_notMem hquote, dropEndWhile_of_notMem hquote]
    rw [htrim, double_of_notMem hquote]
    simp [hv]

theorem length_flatMap_le {f : String → List String} {values : List String}
    (hf : ∀ v ∈ values, (f v).length ≤ 1) : (values.flatMap f).length ≤ values.length := by
  induction values with
  | nil => exact Nat.le_refl 0
  | cons v values ih =>
    obtain ⟨hv, hvalues⟩ := List.forall_mem_cons.1 hf
    have hrest := ih hvalues
    rw [List.flatMap_cons, List.length_append, List.length_cons]
    omega

/-- A list of parts that are read as at most one member each is read back only if each part is. -/
theorem eq_singleton_of_flatMap_eq_self {f : String → List String} {values : List String}
    (hf : ∀ v ∈ values, (f v).length ≤ 1) (h : values.flatMap f = values) : ∀ v ∈ values, f v = [v] := by
  induction values with
  | nil => simp
  | cons v values ih =>
    obtain ⟨hv, hvalues⟩ := List.forall_mem_cons.1 hf
    have hlength := length_flatMap_le hvalues
    rw [List.flatMap_cons] at h
    rcases hread : f v with _ | ⟨w, _ | ⟨w', ws⟩⟩
    · rw [hread, List.nil_append] at h
      rw [h] at hlength
      exact absurd hlength (by simp)
    · rw [hread, List.singleton_append] at h
      obtain ⟨rfl, hrest⟩ := List.cons.inj h
      exact List.forall_mem_cons.2 ⟨hread, ih hvalues hrest⟩
    · simp [hread] at hv

/-- The members are given back exactly if none of them has a comma or a quote. -/
theorem flatMap_readMember_eq_self_iff {values : List String} (hvalues : ∀ v ∈ values, v ≠ "") :
    values.flatMap readMember = values ↔ ∀ v ∈ values, ',' ∉ v.toList ∧ '\'' ∉ v.toList := by
  constructor
  · intro h
    have hcomma : ∀ v ∈ values, ',' ∉ v.toList := by
      intro v hv
      rw [← h] at hv
      obtain ⟨w, _, hread⟩ := List.mem_flatMap.1 hv
      exact comma_notMem_of_mem_splitList hread
    have hshort : ∀ v ∈ values, (readMember v).length ≤ 1 := by
      intro v hv
      rw [readMember_of_notMem (hcomma v hv), List.length_map]
      exact List.length_filter_le _ _
    have hone := eq_singleton_of_flatMap_eq_self hshort h
    exact fun v hv => ⟨hcomma v hv, (readMember_eq_singleton_iff (hvalues v hv) (hcomma v hv)).1 (hone v hv)⟩
  · intro h
    have hone : ∀ v ∈ values, readMember v = [v] := fun v hv =>
      (readMember_eq_singleton_iff (hvalues v hv) (h v hv).1).2 (h v hv).2
    rw [List.flatMap_congr hone, List.flatMap_singleton']

end MySql
end Catalog
end SqlDialects
