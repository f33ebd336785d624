import SqlDialects.Proofs.Query.Rescanning

/-! # Texts put into expressions

A text that is put into an expression outside quotations leaves the markers of the expression alone exactly if a reader
passes it without one. Strings with doubled quotes are always passed; a string with backslashes is passed if it would be
without them, since the reader knows no escapes. -/

namespace SqlDialects
namespace Marker

/-- The stretches of a text before another one end in a stretch that goes on with the first of the other one. -/
theorem exists_split_append (state : Option Char) (cs : List Char) : ∃ init last, split state cs = init ++ [last] ∧
    ∀ ds first rest, split (scan state cs) ds = first :: rest →
      split state (cs ++ ds) = init ++ (last ++ first) :: rest := by
  induction cs generalizing state with
  | nil => exact ⟨[], [], rfl, fun ds first rest h => h⟩
  | cons c cs ih =>
    obtain ⟨init, last, hsplit, happend⟩ := ih (step state c)
    by_cases hmark : state = none ∧ c = '?'
    · obtain ⟨rfl, rfl⟩ := hmark
      refine ⟨[] :: init, last, ?_, fun ds first rest h => ?_⟩
      · rw [split_mark]
        exact congrArg (List.cons []) hsplit
      · rw [List.cons_append, split_mark]
        exact congrArg (List.cons []) (happend ds first rest h)
    · have hother {cs part : List Char} {parts : List (List Char)} (h : split (step state c) cs = part :: parts) :
          split state (c :: cs) = (c :: part) :: parts := by
        obtain ⟨part', parts', hparts, hsplit⟩ := split_other hmark cs
        obtain ⟨rfl, rfl⟩ := List.cons.inj (hparts.symm.trans h)
        exact hsplit
      cases init with
      | nil => exact ⟨[], c :: last, hother hsplit, fun ds first rest h => hother (happend ds first rest h)⟩
      | cons part init =>
        exact ⟨(c :: part) :: init, last, hother hsplit, fun ds first rest h => hother (happend ds first rest h)⟩

/-- A text put between two others becomes a part of the stretch there; all other stretches stay. -/
def Fits (front text back : List Char) : Prop :=
  ∃ init last first rest, split none front = init ++ [last] ∧ split none back = first :: rest ∧
    split none (front ++ back) = init ++ (last ++ first) :: rest ∧
    split none (front ++ text ++ back) = init ++ (last ++ text ++ first) :: rest

variable {front text : List Char}

/-- Outside quotations, the texts that can be put anywhere are those that a reader passes without a marker. -/
theorem fits_iff_passes (hfront : scan none front = none) : (∀ back, Fits front text back) ↔ Passes none text 0 := by
  constructor
  · intro hfits
    have hlength (back : List Char) : (split none (front ++ text ++ back)).length + 1 =
        (split none front).length + (split none back).length := by
      obtain ⟨init, last, first, rest, hf, hb, _, hall⟩ := hfits back
      rw [hf, hb, hall]
      simp
      omega
    have htext := length_split_append none front text
    have hboth (back : List Char) := length_split_append none (front ++ text) back
    rw [hfront] at htext
    have hnil := hlength []
    have hmark := hlength ['?']
    have hbothMark := hboth ['?']
    rw [List.append_nil] at hnil
    rw [scan_append, hfront] at hbothMark
    have hone : (split none []).length = 1 := rfl
    have htwo : (split none ['?']).length = 2 := rfl
    refine ⟨?_, by omega⟩
    cases hscan : scan none text with
    | none => rfl
    | some q =>
      have hquoted : (split (some q) ['?']).length = 1 := rfl
      rw [hscan] at hbothMark
      omega
  · rintro ⟨hscan, hlength⟩ back
    obtain ⟨first, rest, hback⟩ := List.exists_cons_of_ne_nil (split_ne_nil none back)
    obtain ⟨init, last, hsplit, happend⟩ := exists_split_append none front
    obtain ⟨before, only, htext, hinside⟩ := exists_split_append none text
    rw [hfront] at happend
    rw [hscan] at hinside
    have hbefore : before = [] := List.eq_nil_of_length_eq_zero (by simpa [htext] using hlength)
    subst hbefore
    have honly : only = text := by simpa [htext] using intercalate_split none text
    subst honly
    refine ⟨init, last, first, rest, hsplit, hback, happend back first rest hback, ?_⟩
    rw [List.append_assoc, List.append_assoc]
    exact happend (only ++ back) (only ++ first) rest (hinside back first rest hback)

/-- The quotation that is open, if any, is one that a quote opened. -/
def Opened (state : Option Char) : Prop :=
  ∀ q, state = some q → isQuote q = true

theorem Opened.step {state : Option Char} (h : Opened state) (c : Char) : Opened (step state c) := by
  intro q hq
  cases state with
  | none =>
    simp only [Marker.step] at hq
    split at hq
    · next hquote => cases hq; exact hquote
    · cases hq
  | some opened =>
    simp only [Marker.step] at hq
    split at hq
    · cases hq
    · exact h q hq

theorem Opened.passes {state : Option Char} (h : Opened state) {c : Char} (hc : isOrdinary c = true) :
    Passes state [c] 0 := by
  simp only [isOrdinary, Bool.not_eq_true', Bool.or_eq_false_iff, decide_eq_false_iff_not] at hc
  cases state with
  | none => exact .singleton (by simp [Marker.step, hc.1]) fun hm => hc.2 hm.2
  | some q =>
    refine .other ?_
    rintro rfl
    rw [h c rfl] at hc
    exact Bool.false_ne_true hc.1.symm

/-- Behind a character as MySQL escapes it, a reader is in the same quotation as behind the character itself. -/
theorem scan_slashedChar {state : Option Char} (h : Opened state) (c : Char) :
    scan state (Dialect.slashedChar c) = step state c ∧
      (split state (Dialect.slashedChar c)).length = (split state [c]).length := by
  have hslash : Passes state ['\\'] 0 := h.passes (by decide)
  have hbehind (c : Char) : scan state ['\\', c] = step state c ∧
      (split state ['\\', c]).length = (split state [c]).length := by
    have hlength := length_split_append state ['\\'] [c]
    rw [hslash.1, hslash.2] at hlength
    refine ⟨?_, by simpa [Nat.add_comm] using hlength⟩
    rw [← List.singleton_append, scan_append, hslash.1]
    rfl
  unfold Dialect.slashedChar
  split
  · exact hbehind _
  · exact hbehind _
  · exact hbehind _
  · have hzero : Passes state ['\x00'] 0 := h.passes (by decide)
    obtain ⟨hscan, hlength⟩ := hslash.append (h.passes (c := '0') (by decide))
    exact ⟨hscan.trans hzero.1.symm, hlength.trans hzero.2.symm⟩
  · exact ⟨rfl, rfl⟩

theorem scan_slashed {state : Option Char} (h : Opened state) (cs : List Char) :
    scan state (cs.flatMap Dialect.slashedChar) = scan state cs ∧
      (split state (cs.flatMap Dialect.slashedChar)).length = (split state cs).length := by
  induction cs generalizing state with
  | nil => exact ⟨rfl, rfl⟩
  | cons c cs ih =>
    obtain ⟨hscan, hlength⟩ := scan_slashedChar h c
    obtain ⟨hrest, hlengths⟩ := ih (h.step c)
    have hone := length_split_append state [c] cs
    have hall := length_split_append state (Dialect.slashedChar c) (cs.flatMap Dialect.slashedChar)
    have hstep : scan state [c] = step state c := rfl
    rw [hstep] at hone
    rw [hscan, hlength, hlengths] at hall
    rw [List.flatMap_cons, scan_append, hscan, hrest]
    refine ⟨rfl, ?_⟩
    rw [List.singleton_append] at hone
    omega

/-- Two texts that are read alike are passed alike between the same others. -/
theorem passes_congr (state : Option Char) (front : List Char) {cs ds : List Char}
    (hscan : scan (scan state front) cs = scan (scan state front) ds)
    (hlength : (split (scan state front) cs).length = (split (scan state front) ds).length) (back : List Char)
    (k : Nat) : Passes state (front ++ cs ++ back) k ↔ Passes state (front ++ ds ++ back) k := by
  have hbehind : scan state (front ++ cs) = scan state (front ++ ds) := by
    rw [scan_append, scan_append, hscan]
  have hcs := length_split_append state front cs
  have hds := length_split_append state front ds
  have hcsBack := length_split_append state (front ++ cs) back
  have hdsBack := length_split_append state (front ++ ds) back
  rw [hbehind] at hcsBack
  have hsame : (split state (front ++ cs ++ back)).length = (split state (front ++ ds ++ back)).length := by omega
  rw [Passes, Passes, hsame, scan_append, scan_append state (front ++ ds), hbehind]

end Marker

namespace Dialect
open Marker

theorem passes_quoteString {d : Dialect} (hd : d ≠ .mysql) (s : String) : Passes none (d.quoteString s).toList 0 := by
  refine passes_inQuotes (fun c => ?_) s
  unfold quotedChar
  split
  · exact absurd rfl hd
  · exact Passes.two (by decide)
  · next hc => exact Passes.other hc

theorem passes_quoteString_mysql_iff (s : String) :
    Passes none (mysql.quoteString s).toList 0 ↔ Passes none ('\'' :: s.toList ++ ['\'']) 0 := by
  have hopened : Opened (some '\'') := fun q hq => Option.some.inj hq ▸ rfl
  obtain ⟨hscan, hlength⟩ := scan_slashed hopened s.toList
  rw [quoteString, inQuotes, String.toList_ofList]
  exact passes_congr none ['\''] hscan hlength ['\''] 0

end Dialect

end SqlDialects
