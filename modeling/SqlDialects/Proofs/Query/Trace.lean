import Mathlib.Data.List.Chain
import SqlDialects.Proofs.Query.StepOrder

/-!
# What a bound text keeps of its writing

A trace is what was written and bound, step by step. The bound text that it builds holds the stretches of text around
the values and nothing else of the trace: how the writing was cut into steps, and steps that write nothing, leave no
mark. Both texts of a bound text fill the same stretches.
-/

namespace SqlDialects

def Piece.IsText : Piece → Prop
  | .text _ => True
  | .value _ => False

namespace BoundText

/-- No text is empty, and none stands next to another one. -/
structure IsMerged (ps : List Piece) : Prop where
  notEmpty : .text "" ∉ ps
  apart : ps.IsChain fun p q => ¬ (p.IsText ∧ q.IsText)

/-- What the steps of a trace build from nothing: each writes a text or binds a value. -/
def ofTrace (trace : List Piece) : BoundText :=
  trace.foldl add empty

/-! ## Merged pieces -/

variable {ps qs qs' : List Piece} {b : BoundText}

theorem isMerged_nil : IsMerged [] :=
  ⟨List.not_mem_nil, .nil⟩

theorem isMerged_reverse : IsMerged ps.reverse ↔ IsMerged ps := by
  have hapart : ps.reverse.IsChain (fun p q => ¬ (p.IsText ∧ q.IsText)) ↔
      ps.IsChain fun p q => ¬ (p.IsText ∧ q.IsText) := by
    simp only [List.isChain_reverse, and_comm]
  exact ⟨fun ⟨hne, h⟩ => ⟨by simpa using hne, hapart.1 h⟩, fun ⟨hne, h⟩ => ⟨by simpa using hne, hapart.2 h⟩⟩

theorem IsMerged.value (h : IsMerged ps) (v : Value) : IsMerged (.value v :: ps) where
  notEmpty := by simpa using h.notEmpty
  apart := List.isChain_cons.2 ⟨fun _ _ htext => htext.1, h.apart⟩

theorem IsMerged.extend (h : IsMerged ps) {s : String} (hs : s ≠ "") : IsMerged (extend s ps) := by
  obtain ⟨hne, hapart⟩ := h
  cases ps with
  | nil => exact ⟨by simpa [BoundText.extend] using hs.symm, .singleton _⟩
  | cons p rest =>
    cases p with
    | value v =>
      have hmem : .text "" ∉ Piece.text s :: .value v :: rest := by simpa [hs.symm] using hne
      exact ⟨hmem, List.isChain_cons_cons.2 ⟨fun htext => htext.2, hapart⟩⟩
    | text last =>
      -- the longer text has the neighbour that the shorter one had
      rw [List.isChain_cons] at hapart
      have hrest : .text "" ∉ rest := fun hmem => hne (List.mem_cons_of_mem _ hmem)
      exact ⟨by simpa [BoundText.extend, hs] using hrest, List.isChain_cons.2 hapart⟩

/-- A step keeps the pieces merged. -/
theorem IsMerged.add (h : IsMerged b.newestFirst) (p : Piece) : IsMerged (b.add p).newestFirst := by
  cases p with
  | value v => exact h.value v
  | text s =>
    by_cases hs : s = ""
    · subst hs
      exact h
    · rw [BoundText.add, newestFirst_write b hs]
      exact h.extend hs

theorem IsMerged.foldl_add (h : IsMerged b.newestFirst) (trace : List Piece) :
    IsMerged (trace.foldl BoundText.add b).newestFirst := by
  induction trace generalizing b with
  | nil => exact h
  | cons p trace ih => exact ih (h.add p)

theorem isMerged_ofTrace (trace : List Piece) : IsMerged (ofTrace trace).pieces :=
  isMerged_reverse.2 (isMerged_nil.foldl_add (b := empty) trace)

/-! ## The stretches of a trace -/

theorem stretches_congr (h : stretches qs = stretches qs') (ps : List Piece) :
    stretches (ps ++ qs) = stretches (ps ++ qs') := by
  induction ps with
  | nil => exact h
  | cons p ps ih => cases p <;> simp [stretches, ih]

/-- A step leaves the stretches that it would leave as a piece of its own. -/
theorem stretches_add (b : BoundText) (p : Piece) (rest : List Piece) :
    stretches ((b.add p).pieces ++ rest) = stretches (b.pieces ++ p :: rest) := by
  cases p with
  | value v => simp [add]
  | text s =>
    by_cases hs : s = ""
    · subst hs
      have hempty : stretches (.text "" :: rest) = stretches rest := by
        cases hrest : stretches rest <;> simp [stretches, hrest]
      exact (stretches_congr hempty b.pieces).symm
    · rw [add]
      obtain h | ⟨ps, last, hlast, h⟩ := b.pieces_write hs
      · simp [h]
      · have hjoined : stretches (.text (last ++ s) :: rest) = stretches (.text last :: .text s :: rest) := by
          simp [stretches, Function.comp_def]
        simpa [h, hlast] using stretches_congr hjoined ps

theorem stretches_foldl_add (trace : List Piece) (b : BoundText) :
    stretches (trace.foldl add b).pieces = stretches (b.pieces ++ trace) := by
  induction trace generalizing b with
  | nil => simp
  | cons p trace ih => rw [List.foldl_cons, ih, stretches_add]

theorem stretches_ofTrace (trace : List Piece) : stretches (ofTrace trace).pieces = stretches trace :=
  stretches_foldl_add trace empty

theorem argCount_ofTrace (trace : List Piece) : (ofTrace trace).argCount = (valuesOf trace).length :=
  (foldl_add empty (fun _ _ => "") 0 trace).1.trans (Nat.zero_add _)

/-- The text of a trace is that of its own steps. -/
theorem textFrom_ofTrace (f : Nat → Value → String) (trace : List Piece) :
    (ofTrace trace).textFrom f 0 = textOf f 0 trace :=
  (foldl_add empty f 0 trace).2

theorem args_foldl_add (trace : List Piece) (b : BoundText) :
    (trace.foldl add b).args = b.args ++ valuesOf trace := by
  induction trace generalizing b with
  | nil => simp [valuesOf]
  | cons p trace ih => cases p <;> simp [ih, add, valuesOf]

theorem args_ofTrace (trace : List Piece) : (ofTrace trace).args = valuesOf trace :=
  args_foldl_add trace empty

/-- Writing the stretches of a trace with its values between them comes to the same as its steps. -/
theorem interleave_stretches (trace : List Piece) (b : BoundText) :
    Marker.interleave (stretches trace) (valuesOf trace) b = trace.foldl add b := by
  induction trace generalizing b with
  | nil => simp [stretches, valuesOf, Marker.interleave]
  | cons p trace ih =>
    cases p with
    | value v => simp [stretches, valuesOf, Marker.interleave, ih, add]
    | text s =>
      rw [List.foldl_cons, ← ih, stretches, valuesOf, add]
      have hlength := length_stretches trace
      cases hparts : stretches trace with
      | nil => simp [hparts] at hlength
      | cons part parts => cases valuesOf trace <;> simp [Marker.interleave, write_write]

theorem pieces_ofTrace_eq_iff (trace trace' : List Piece) : (ofTrace trace').pieces = (ofTrace trace).pieces ↔
    valuesOf trace' = valuesOf trace ∧ stretches trace' = stretches trace := by
  constructor
  · intro h
    rw [← args_ofTrace, ← args_ofTrace trace, ← stretches_ofTrace, ← stretches_ofTrace trace, args, args, h]
    exact ⟨rfl, rfl⟩
  · rintro ⟨hvalues, hstretches⟩
    rw [ofTrace, ofTrace, ← interleave_stretches, ← interleave_stretches, hvalues, hstretches]

/-- A bound text is merged, and counts the values of its trace. Two traces leave the same pieces exactly if they have the
same values and the same stretches of text around them. Its two texts fill these stretches, the one with a placeholder
and the other with a literal for each value. -/
theorem ofTrace_records (d : Dialect) (trace : List Piece) :
    IsMerged (ofTrace trace).pieces ∧ (ofTrace trace).argCount = (valuesOf trace).length ∧
      (∀ trace', (ofTrace trace').pieces = (ofTrace trace).pieces ↔
        valuesOf trace' = valuesOf trace ∧ stretches trace' = stretches trace) ∧
      (ofTrace trace).args = valuesOf trace ∧
      ((ofTrace trace).render d).toList =
        Marker.filled (fun k _ => d.placeholder k) 0 (stretches trace) (valuesOf trace) ∧
      ((ofTrace trace).renderLiteral d).toList =
        Marker.filled (fun _ v => d.encodeValue v) 0 (stretches trace) (valuesOf trace) := by
  have htext (f : Nat → Value → String) : ((ofTrace trace).textFrom f 0).toList =
      Marker.filled f 0 (stretches trace) (valuesOf trace) := by
    rw [textFrom_ofTrace, toList_textOf]
  exact ⟨isMerged_ofTrace trace, argCount_ofTrace trace, pieces_ofTrace_eq_iff trace, args_ofTrace trace, htext _, htext _⟩

/-- An empty text between two others leaves no mark. -/
example : (ofTrace [.text "a", .text "", .text "b", .value .null]).pieces = [.text "ab", .value .null] := by
  rfl

end BoundText
end SqlDialects
