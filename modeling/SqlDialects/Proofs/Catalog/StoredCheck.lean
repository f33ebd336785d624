import SqlDialects.Catalog.EnumCheck
import SqlDialects.Proofs.Catalog.DefaultReading
import SqlDialects.Proofs.Catalog.MemberReading

/-!
# The check that PostgreSQL stores for an enumeration

PostgreSQL keeps the check of an enumeration in a form of its own: the values are the elements of an array of text, each
with a cast. The reader takes what stands between the fixed texts around the array, cuts it at the commas and looks in
each part for the last quote in front of a cast. So a value may have quotes, brackets, colons and blanks, or nothing at
all, and only commas and line feeds are in the way.
-/

namespace SqlDialects
namespace Catalog.EnumCheck
open Text

/-- One or more word characters. -/
def IsName (name : String) : Prop :=
  name ≠ "" ∧ ∀ c ∈ name.toList, isWord c

instance (name : String) : Decidable (IsName name) :=
  decidable_of_iff (name ≠ "" ∧ name.toList.all isWord = true) (and_congr_right fun _ => List.all_eq_true)

/-- A value as PostgreSQL keeps it: a literal with a cast. -/
def storedValue (v : String) : String :=
  Dialect.standardString v ++ "::character varying"

/-- The check that PostgreSQL keeps for a column with these values. -/
def storedCheck (column : String) (values : List String) : String :=
  "CHECK (((" ++ column ++ ")::text = ANY ((ARRAY[" ++ ", ".intercalate (values.map storedValue) ++ "])::text[])))"

variable {name v : String} {values : List String} {cs rest body : List Char}

/-! ## Cutting the frame off -/

theorem after?_append (beginning : String) (cs : List Char) : after? beginning (beginning.toList ++ cs) = some cs := by
  have hprefix : beginning.toList.isPrefixOf (beginning.toList ++ cs) = true :=
    List.isPrefixOf_iff_prefix.2 (List.prefix_append _ _)
  rw [after?, if_pos hprefix, ← String.length_toList, List.drop_left]

theorem before?_append (ending : String) (cs : List Char) : before? ending (cs ++ ending.toList) = some cs := by
  have hrest := after?_append (String.ofList ending.toList.reverse) cs.reverse
  rw [String.toList_ofList, ← List.reverse_append] at hrest
  rw [before?, hrest, Option.map_some, List.reverse_reverse]

theorem word?_append (hname : IsName name) (hrest : ∀ c ∈ rest.head?, isWord c = false) :
    word? (name.toList ++ rest) = some (name.toList, rest) := by
  obtain ⟨hne, hword⟩ := hname
  have htake : rest.takeWhile isWord = [] := by
    cases rest with
    | nil => rfl
    | cons c rest => exact List.takeWhile_cons_of_neg (by simpa using hrest c rfl)
  have hdrop : rest.dropWhile isWord = rest := by
    cases rest with
    | nil => rfl
    | cons c rest => exact List.dropWhile_cons_of_neg (by simpa using hrest c rfl)
  have hnil : name.toList.isEmpty = false := by simpa using hne
  rw [word?, List.takeWhile_append_of_pos hword, List.dropWhile_append_of_pos hword, htake, hdrop, List.append_nil,
    hnil]
  rfl

/-- The elements of the array, as they stand between its brackets. -/
def elements (values : List String) : List Char :=
  [',', ' '].intercalate (values.map fun v => (storedValue v).toList)

theorem toList_storedCheck (name : String) (values : List String) :
    (storedCheck name values).toList = "CHECK (((".toList ++ (name.toList ++ (")::text = ANY ((ARRAY[".toList ++
      (elements values ++ "])::text[])))".toList))) := by
  simp only [storedCheck, elements, String.toList_append, String.toList_intercalate, List.map_map, List.append_assoc]
  rfl

theorem postgresParts?_storedCheck (hname : IsName name) (values : List String) :
    postgresParts? (storedCheck name values).toList =
      if '\n' ∈ elements values then none else some (name.toList, elements values) := by
  have hword : word? (name.toList ++ (")::text = ANY ((ARRAY[".toList ++ (elements values ++ "])::text[])))".toList))) =
      some (name.toList, ")::text = ANY ((ARRAY[".toList ++ (elements values ++ "])::text[])))".toList)) := by
    apply word?_append hname
    intro c hc
    cases hc
    decide
  rw [postgresParts?, toList_storedCheck, after?_append]
  simp only [Option.bind_eq_bind, Option.bind_some, hword, after?_append, before?_append, List.contains_iff_mem]

/-! ## Reading the elements -/

theorem toList_storedValue (v : String) :
    (storedValue v).toList = '\'' :: (double '\'' v.toList ++ (castMark ++ "character varying".toList)) := by
  rw [storedValue, String.toList_append, Dialect.toList_standardString]
  simp [castMark]

/-- A blank in front of the value is cut off, and the cast mark behind it is the last one, whatever the value is. -/
theorem postgresValue?_storedValue (margin : List Char) (hmargin : ∀ c ∈ margin, isBlank c) (v : String) :
    postgresValue? (margin ++ (storedValue v).toList) = some v := by
  have htrim : trim (margin ++ (storedValue v).toList) = (storedValue v).toList := by
    have hend : (storedValue v).toList =
        ('\'' :: (double '\'' v.toList ++ castMark ++ "character varyin".toList)) ++ ['g'] := by
      rw [toList_storedValue]
      simp
    have hstart : (storedValue v).toList.dropWhile isBlank = (storedValue v).toList := by
      rw [toList_storedValue]
      exact List.dropWhile_cons_of_neg (by decide)
    rw [trim, trimEnds, List.dropWhile_append_of_pos hmargin, hstart, hend]
    exact dropEndWhile_append_singleton (by decide) _
  have hcut : cutLast? ['\'', ':', ':'] (double '\'' v.toList ++ (castMark ++ "character varying".toList)) =
      some (double '\'' v.toList, "character varying".toList) := by
    apply (cutLast?_eq_some_iff castMark_ne_nil).2
    have hfree : '\'' ∉ (castMark ++ "character varying".toList).tail := by decide
    exact ⟨(List.append_assoc ..).symm, Free.of_notMem List.mem_cons_self hfree⟩
  rw [postgresValue?, htrim, toList_storedValue]
  simp only [hcut, undouble_double, String.ofList_toList]

/-- What is read from a part was in the part. -/
theorem mem_of_postgresValue? {item : List Char} {c : Char} (h : postgresValue? item = some v) (hc : c ∈ v.toList) :
    c ∈ item := by
  unfold postgresValue? at h
  split at h
  · next rest htrim =>
    obtain rfl := Option.some.inj h
    rw [String.toList_ofList] at hc
    have hcontent := mem_of_mem_undouble hc
    have hrest : c ∈ rest := by
      split at hcontent
      · next content after hcut =>
        rw [eq_append_of_cutLast? hcut]
        simp [hcontent]
      · exact hcontent
    have hitem : c ∈ trimEnds isBlank item := by
      rw [← trim, htrim]
      exact List.mem_cons_of_mem _ hrest
    exact mem_of_mem_trimEnds hitem
  · cases h

theorem notMem_of_mem_values {sep : Char} (h : v ∈ (Text.splitAt sep body).filterMap postgresValue?) :
    sep ∉ v.toList := by
  obtain ⟨part, hpart, hread⟩ := List.mem_filterMap.1 h
  exact fun hsep => notMem_of_mem_splitAt hpart (mem_of_postgresValue? hread hsep)

/-- The blanks behind the commas belong to the parts. -/
theorem intercalate_pair (sep c : Char) (part : List Char) (parts : List (List Char)) :
    [sep, c].intercalate (part :: parts) = [sep].intercalate (part :: parts.map (c :: ·)) := by
  induction parts generalizing part with
  | nil => rfl
  | cons next parts ih =>
    rw [List.map_cons, List.intercalate_cons_cons, List.intercalate_cons_cons, ih]
    cases parts with
    | nil => simp
    | cons _ _ => simp [List.intercalate_cons_cons]

theorem mem_storedValue_iff {c : Char} (hc : c ∉ (storedValue "").toList) :
    c ∈ (storedValue v).toList ↔ c ∈ v.toList := by
  rw [toList_storedValue] at hc ⊢
  simp_all [mem_double, double]

theorem filterMap_elements (h : ∀ v ∈ values, ',' ∉ v.toList) :
    (Text.splitAt ',' (elements values)).filterMap postgresValue? = values := by
  have hcomma : ∀ v ∈ values, ',' ∉ (storedValue v).toList := by
    intro v hv
    rw [mem_storedValue_iff (by decide)]
    exact h v hv
  cases values with
  | nil => rfl
  | cons v values =>
    obtain ⟨hv, hvalues⟩ := List.forall_mem_cons.1 hcomma
    have hfirst := postgresValue?_storedValue [] nofun v
    have hrest := postgresValue?_storedValue [' '] (List.forall_mem_singleton.2 isBlank_space)
    rw [List.nil_append] at hfirst
    simp only [List.singleton_append] at hrest
    have hparts : Text.splitAt ',' (elements (v :: values)) =
        (storedValue v).toList :: values.map fun w => ' ' :: (storedValue w).toList := by
      rw [elements, List.map_cons, intercalate_pair, List.map_map]
      apply splitAt_intercalate (List.cons_ne_nil _ _)
      intro part hpart
      rcases List.mem_cons.1 hpart with rfl | hpart
      · exact hv
      · obtain ⟨w, hw, rfl⟩ := List.mem_map.1 hpart
        have hsep : ',' ≠ ' ' := by decide
        exact List.not_mem_cons_of_ne_of_not_mem hsep (hvalues w hw)
    rw [hparts, List.filterMap_cons_some hfirst, List.filterMap_map]
    simp only [Function.comp_def, hrest, List.filterMap_some]

theorem lineFeed_mem_elements_iff : '\n' ∈ elements values ↔ ∃ v ∈ values, '\n' ∈ v.toList := by
  have hvalue (v : String) : '\n' ∈ (storedValue v).toList ↔ '\n' ∈ v.toList := mem_storedValue_iff (by decide)
  constructor
  · intro h
    by_contra hnone
    have hsep : '\n' ∉ [',', ' '] := by decide
    apply notMem_intercalate hsep ?_ h
    intro part hpart hfeed
    obtain ⟨v, hv, rfl⟩ := List.mem_map.1 hpart
    exact hnone ⟨v, hv, (hvalue v).1 hfeed⟩
  · rintro ⟨v, hv, hfeed⟩
    have hinfix : (storedValue v).toList <:+: elements values := isInfix_intercalate (List.mem_map_of_mem hv)
    exact hinfix.subset ((hvalue v).2 hfeed)

theorem postgresValues?_storedCheck (hname : IsName name) (values : List String) (column : String) :
    postgresValues? (storedCheck name values) column =
      if '\n' ∉ elements values ∧ name = column then
        some ((Text.splitAt ',' (elements values)).filterMap postgresValue?) else none := by
  rw [postgresValues?, postgresParts?_storedCheck hname]
  by_cases hfeed : '\n' ∈ elements values
  · simp [hfeed]
  · simp [hfeed]

/-- The stored check of an enumeration is read as the values it was written for exactly if none of them has a comma or a
line feed, whatever else is in them; and it is no check of any other column. -/
theorem postgresValues?_storedCheck_eq_some_iff (hname : IsName name) (values : List String) :
    (postgresValues? (storedCheck name values) name = some values ↔
      ∀ v ∈ values, ',' ∉ v.toList ∧ '\n' ∉ v.toList) ∧
    ∀ column, column ≠ name → postgresValues? (storedCheck name values) column = none := by
  have hread := postgresValues?_storedCheck hname values
  constructor
  · rw [hread]
    constructor
    · intro h v hv
      obtain ⟨⟨hfeed, _⟩, hvalues⟩ := Option.ite_none_right_eq_some.1 h
      have hmem := hv
      rw [← Option.some.inj hvalues] at hmem
      refine ⟨notMem_of_mem_values hmem, fun hv' => ?_⟩
      exact hfeed (lineFeed_mem_elements_iff.2 ⟨v, hv, hv'⟩)
    · intro h
      have hfeed : '\n' ∉ elements values := by
        rw [lineFeed_mem_elements_iff]
        rintro ⟨v, hv, hv'⟩
        exact (h v hv).2 hv'
      rw [if_pos ⟨hfeed, rfl⟩, filterMap_elements fun v hv => (h v hv).1]
  · intro column hcolumn
    rw [hread, if_neg fun hsame => hcolumn hsame.2.symm]

/-- Values that look like the end of the check, like a cast or like nothing are read back. -/
theorem postgresValues?_storedCheck_eq_some_iff_of_marks :
    let values := ["it's", "a])::text[])))", "x'::y", "'", " ", ""]
    IsName "größe" ∧ postgresValues? (storedCheck "größe" values) "größe" = some values := by
  intro values
  have hname : IsName "größe" := by decide
  exact ⟨hname, (postgresValues?_storedCheck_eq_some_iff hname values).1.2 (by decide)⟩

end Catalog.EnumCheck
end SqlDialects
