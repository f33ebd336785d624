import SqlDialects.Dialect.Identifier
import SqlDialects.Proofs.Dialect.LiteralReading
import SqlDialects.Proofs.Text.Occurrence

/-!
# Identifiers read back

A reader of identifiers takes parts in quotes with single dots between them; inside a part two quotes stand for one.
It reads back the parts of the identifier that was written, whatever they are made of, and stops right behind the
last of them. So the written form of an identifier tells which one it is, and where it ends.
-/

namespace SqlDialects.Dialect
open Text

/-- Reads a part behind its opening quote: its content and the text behind its closing quote. -/
def readPart? (q : Char) : List Char → Option (List Char × List Char)
  | [] => none
  | [c] => if c = q then some ([], []) else none
  | c :: c' :: cs =>
    if c ≠ q then (readPart? q (c' :: cs)).map (prepend c)
    else if c' = q then (readPart? q cs).map (prepend q)
    else some ([], c' :: cs)

section Part

variable {q c : Char} {cs rest part : List Char}

theorem readPart?_other (hc : c ≠ q) : readPart? q (c :: cs) = (readPart? q cs).map (prepend c) := by
  cases cs with
  | nil => simp [readPart?, hc]
  | cons c' cs => simp [readPart?, hc]

theorem readPart?_pair : readPart? q (q :: q :: cs) = (readPart? q cs).map (prepend q) := by
  simp [readPart?]

theorem readPart?_close (h : rest.head? ≠ some q) : readPart? q (q :: rest) = some ([], rest) := by
  cases rest with
  | nil => simp [readPart?]
  | cons c rest =>
    have hc : c ≠ q := fun hc => h (congrArg some hc)
    simp [readPart?, hc]

theorem readPart?_double (part : List Char) (h : rest.head? ≠ some q) :
    readPart? q (double q part ++ q :: rest) = some (part, rest) := by
  induction part with
  | nil => exact readPart?_close h
  | cons c part ih =>
    by_cases hc : c = q
    · subst hc
      rw [double, if_pos rfl, List.cons_append, List.cons_append, readPart?_pair, ih]
      rfl
    · rw [double, if_neg hc, List.cons_append, readPart?_other hc, ih]
      rfl

theorem length_of_readPart? (h : readPart? q cs = some (part, rest)) : rest.length < cs.length := by
  fun_induction readPart? q cs generalizing part with
  | case1 => cases h
  | case2 => cases h; simp
  | case3 => cases h
  | case4 c c' cs hc ih =>
    obtain ⟨read, hread, heq⟩ := Option.map_eq_some_iff.1 h
    cases heq
    exact Nat.lt_succ_of_lt (ih hread)
  | case5 c cs hc ih =>
    obtain ⟨read, hread, heq⟩ := Option.map_eq_some_iff.1 h
    cases heq
    have hshorter := ih hread
    simp only [List.length_cons]
    omega
  | case6 => cases h; simp

end Part

/-- Reads parts with single dots between them, and the text behind the last part. -/
def readParts? (q : Char) : List Char → Option (List (List Char) × List Char)
  | [] => none
  | c :: cs =>
    if c ≠ q then none
    else match _ : readPart? q cs with
      | some (part, '.' :: rest) => (readParts? q rest).map fun read => (part :: read.1, read.2)
      | some (part, rest) => some ([part], rest)
      | none => none
termination_by cs => cs.length
decreasing_by
  have := length_of_readPart? ‹_›
  simp only [List.length_cons] at *
  omega

/-- Reads an identifier at the start of a text: its parts, and the text behind it. -/
def readIdentifier? (d : Dialect) (cs : List Char) : Option (List String × List Char) :=
  (readParts? d.identifierQuote cs).map fun read => (read.1.map String.ofList, read.2)

section Parts

variable {q : Char} {cs rest part : List Char}

theorem readParts?_dot (h : readPart? q cs = some (part, '.' :: rest)) :
    readParts? q (q :: cs) = (readParts? q rest).map fun read => (part :: read.1, read.2) := by
  rw [readParts?, if_neg (not_not.2 rfl)]
  split
  · next hread =>
    cases h.symm.trans hread
    rfl
  · next hdot hread =>
    cases h.symm.trans hread
    exact absurd rfl (hdot _)
  · next hread => cases h.symm.trans hread

theorem readParts?_last (hrest : rest.head? ≠ some '.') (h : readPart? q cs = some (part, rest)) :
    readParts? q (q :: cs) = some ([part], rest) := by
  rw [readParts?, if_neg (not_not.2 rfl)]
  split
  · next hread =>
    cases h.symm.trans hread
    exact absurd rfl hrest
  · next hread =>
    cases h.symm.trans hread
    rfl
  · next hread => cases h.symm.trans hread

/-- Between two parts stands a dot, which is no quote: so no part goes on into the next one. -/
theorem readParts?_intercalate (hq : q ≠ '.') {parts : List (List Char)} (hparts : parts ≠ [])
    (hdot : rest.head? ≠ some '.') (hquote : rest.head? ≠ some q) :
    readParts? q (['.'].intercalate (parts.map (quotedPart q)) ++ rest) = some (parts, rest) := by
  induction parts with
  | nil => exact absurd rfl hparts
  | cons part parts ih =>
    cases parts with
    | nil =>
      have hread := readPart?_double part hquote
      simpa [quotedPart] using readParts?_last hdot hread
    | cons next parts =>
      have hbehind : ('.' :: (['.'].intercalate ((next :: parts).map (quotedPart q)) ++ rest)).head? ≠ some q := by
        simpa using hq.symm
      have hread := readParts?_dot (readPart?_double part hbehind)
      rw [ih nofun] at hread
      simpa [List.intercalate_cons_cons, quotedPart] using hread

theorem length_of_readParts? {parts : List (List Char)} (h : readParts? q cs = some (parts, rest)) :
    rest.length < cs.length := by
  fun_induction readParts? q cs generalizing parts with
  | case1 => cases h
  | case2 => cases h
  | case3 c cs hc part rest' hread ih =>
    obtain ⟨read, hparts, heq⟩ := Option.map_eq_some_iff.1 h
    cases heq
    have hshorter := length_of_readPart? hread
    have hlater := ih hparts
    simp only [List.length_cons] at hshorter ⊢
    omega
  | case4 c cs hc part rest' hdot hread =>
    cases h
    exact Nat.lt_succ_of_lt (length_of_readPart? hread)
  | case5 => cases h

theorem length_of_readIdentifier? {d : Dialect} {parts : List String}
    (h : d.readIdentifier? cs = some (parts, rest)) : rest.length < cs.length := by
  obtain ⟨read, hread, heq⟩ := Option.map_eq_some_iff.1 h
  cases heq
  exact length_of_readParts? hread

end Parts

theorem identifierQuote_ne_dot (d : Dialect) : d.identifierQuote ≠ '.' := by
  cases d <;> decide

/-- A text behind an identifier that cannot be read as more of it. -/
def EndsIdentifier (d : Dialect) (rest : List Char) : Prop :=
  rest.head? ≠ some '.' ∧ rest.head? ≠ some d.identifierQuote

/-- The parts between the dots of an identifier, the empty ones too. -/
structure ArePartsOf (parts : List String) (ident : String) : Prop where
  ne_nil : parts ≠ []
  joined : ".".intercalate parts = ident
  dot_notMem : ∀ part ∈ parts, '.' ∉ part.toList

theorem endsIdentifier_nil (d : Dialect) : d.EndsIdentifier [] :=
  ⟨nofun, nofun⟩

theorem arePartsOf_splitAt (ident : String) : ArePartsOf ((Text.splitAt '.' ident.toList).map String.ofList) ident where
  ne_nil := by simpa using splitAt_ne_nil '.' ident.toList
  joined := by
    have hjoined := intercalate_splitAt '.' ident.toList
    rw [← String.toList_inj, String.toList_intercalate, List.map_map]
    simpa [Function.comp_def] using hjoined
  dot_notMem := by
    intro part hpart
    obtain ⟨cs, hcs, rfl⟩ := List.mem_map.1 hpart
    rw [String.toList_ofList]
    exact notMem_of_mem_splitAt hcs

theorem ArePartsOf.splitAt_eq {parts : List String} {ident : String} (h : ArePartsOf parts ident) :
    Text.splitAt '.' ident.toList = parts.map String.toList := by
  have hdots : ∀ cs ∈ parts.map String.toList, '.' ∉ cs := by
    simpa using h.dot_notMem
  rw [← h.joined, String.toList_intercalate]
  exact splitAt_intercalate (by simpa using h.ne_nil) hdots

variable {d : Dialect} {rest rest' : List Char} {parts : List String} {ident other : String}

theorem readIdentifier?_quoteIdent (hparts : ArePartsOf parts ident) (hrest : d.EndsIdentifier rest) :
    d.readIdentifier? ((d.quoteIdent ident).toList ++ rest) = some (parts, rest) := by
  have hread := readParts?_intercalate d.identifierQuote_ne_dot (splitAt_ne_nil '.' ident.toList) hrest.1 hrest.2
  simp only [readIdentifier?, quoteIdent, quotedIdentifier, String.toList_ofList, hread]
  simp [hparts.splitAt_eq]

theorem eq_of_quoteIdent_append (hrest : d.EndsIdentifier rest) (hrest' : d.EndsIdentifier rest')
    (h : (d.quoteIdent ident).toList ++ rest = (d.quoteIdent other).toList ++ rest') : ident = other ∧ rest = rest' := by
  have hread := readIdentifier?_quoteIdent (arePartsOf_splitAt ident) hrest
  rw [h, readIdentifier?_quoteIdent (arePartsOf_splitAt other) hrest', Option.some.injEq, Prod.mk.injEq] at hread
  obtain ⟨hparts, rfl⟩ := hread
  have hident := (arePartsOf_splitAt ident).joined
  rw [← hparts, (arePartsOf_splitAt other).joined] at hident
  exact ⟨hident.symm, rfl⟩

/-- Every identifier has parts between its dots. They are read back from its written form, with all that stands
behind it left over. No two identifiers are written alike, and none is written as the beginning of another. -/
theorem identifiers_read_back (d : Dialect) :
    (∀ ident, ∃ parts, ArePartsOf parts ident) ∧
    (∀ ident parts rest, ArePartsOf parts ident → d.EndsIdentifier rest →
      d.readIdentifier? ((d.quoteIdent ident).toList ++ rest) = some (parts, rest)) ∧
    (∀ ident other rest rest', d.EndsIdentifier rest → d.EndsIdentifier rest' →
      (d.quoteIdent ident).toList ++ rest = (d.quoteIdent other).toList ++ rest' → ident = other ∧ rest = rest') ∧
    Function.Injective d.quoteIdent := by
  refine ⟨fun ident => ⟨_, arePartsOf_splitAt ident⟩, fun ident parts rest => readIdentifier?_quoteIdent,
    fun ident other rest rest' => eq_of_quoteIdent_append, fun ident other h => ?_⟩
  have hsame : (d.quoteIdent ident).toList ++ [] = (d.quoteIdent other).toList ++ [] := by rw [h]
  exact (eq_of_quoteIdent_append d.endsIdentifier_nil d.endsIdentifier_nil hsame).1

/-- A name with a quote before a dot, an empty part, and quotes around the last part, in front of an alias. -/
theorem identifiers_read_back_of_quotes :
    let ident := "a\"..\"b\""
    let rest := " AS \"c\".d".toList
    ArePartsOf ["a\"", "", "\"b\""] ident ∧ postgres.EndsIdentifier rest ∧
      postgres.readIdentifier? ((postgres.quoteIdent ident).toList ++ rest) = some (["a\"", "", "\"b\""], rest) := by
  intro ident rest
  have hparts : ArePartsOf ["a\"", "", "\"b\""] ident := ⟨by decide, by decide, by decide⟩
  have hrest : postgres.EndsIdentifier rest := ⟨by decide, by decide⟩
  exact ⟨hparts, hrest, (identifiers_read_back postgres).2.1 ident _ rest hparts hrest⟩

end SqlDialects.Dialect
