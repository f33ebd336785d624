import Mathlib.Data.List.Forall2
import SqlDialects.Query.Clause

/-!
# Writing respects relations between values

Under a relation between values, two bound texts are alike if they have equal texts and related values at
the same places. Alike texts render alike, and what writes conditions keeps texts alike.
-/

namespace SqlDialects

variable {R : Value → Value → Prop}

/-- Equal texts, or related values. -/
inductive Piece.Alike (R : Value → Value → Prop) : Piece → Piece → Prop where
  | text (s : String) : Alike R (.text s) (.text s)
  | value {v v' : Value} (h : R v v') : Alike R (.value v) (.value v')

namespace BoundText

def Alike (R : Value → Value → Prop) (b b' : BoundText) : Prop :=
  List.Forall₂ (Piece.Alike R) b.newestFirst b'.newestFirst

variable {b b' : BoundText}

theorem extend_alike (s : String) {ps qs : List Piece} (h : List.Forall₂ (Piece.Alike R) ps qs) :
    List.Forall₂ (Piece.Alike R) (extend s ps) (extend s qs) := by
  cases h with
  | nil => exact .cons (.text s) .nil
  | cons hp hps =>
    cases hp with
    | text last => exact .cons (.text _) hps
    | value hv => exact .cons (.text s) (.cons (.value hv) hps)

theorem Alike.write (h : b.Alike R b') (s : String) : (b.write s).Alike R (b'.write s) := by
  unfold BoundText.write
  split
  · exact h
  · exact extend_alike s h

theorem Alike.bind (h : b.Alike R b') {v v' : Value} (hv : R v v') : (b.bind v).Alike R (b'.bind v') :=
  .cons (.value hv) h

theorem Alike.ite {p : Prop} [Decidable p] {e e' : BoundText} (h : b.Alike R b') (he : e.Alike R e') :
    (if p then b else e).Alike R (if p then b' else e') := by
  split
  · exact h
  · exact he

theorem Alike.pieces (h : b.Alike R b') : List.Forall₂ (Piece.Alike R) b.pieces b'.pieces :=
  List.forall₂_reverse_iff.2 h

theorem textOf_alike (f : Nat → String) {ps qs : List Piece} (h : List.Forall₂ (Piece.Alike R) ps qs)
    (n : Nat) : textOf (fun n _ => f n) n ps = textOf (fun n _ => f n) n qs := by
  induction h generalizing n with
  | nil => rfl
  | cons hp _ ih => cases hp <;> simp [textOf, ih]

theorem valuesOf_alike {ps qs : List Piece} (h : List.Forall₂ (Piece.Alike R) ps qs) :
    List.Forall₂ R (valuesOf ps) (valuesOf qs) := by
  induction h with
  | nil => exact .nil
  | cons hp _ ih =>
    cases hp with
    | text s => exact ih
    | value hv => exact .cons hv ih

theorem Alike.render (h : b.Alike R b') (d : Dialect) : b.render d = b'.render d :=
  textOf_alike d.placeholder h.pieces 0

theorem Alike.args (h : b.Alike R b') : List.Forall₂ R b.args b'.args :=
  valuesOf_alike h.pieces

end BoundText

/-- Alike texts, or the same error. -/
inductive ResultsAlike (R : Value → Value → Prop) : Except Error BoundText → Except Error BoundText → Prop where
  | ok {b b' : BoundText} (h : b.Alike R b') : ResultsAlike R (.ok b) (.ok b')
  | error (e : Error) : ResultsAlike R (.error e) (.error e)

theorem ResultsAlike.bind {x x' : Except Error BoundText} {f f' : BoundText → Except Error BoundText}
    (hx : ResultsAlike R x x') (hf : ∀ b b', b.Alike R b' → ResultsAlike R (f b) (f' b')) :
    ResultsAlike R (x >>= f) (x' >>= f') := by
  cases hx with
  | ok h => exact hf _ _ h
  | error e => exact .error e

namespace Marker

theorem interleave_alike {vs vs' : List Value} (hv : List.Forall₂ R vs vs') (parts : List (List Char))
    {b b' : BoundText} (h : b.Alike R b') : (interleave parts vs b).Alike R (interleave parts vs' b') := by
  induction hv generalizing parts b b' with
  | nil =>
    cases parts with
    | nil => exact h
    | cons part parts => exact h.write _
  | cons hv _ ih =>
    cases parts with
    | nil => exact h
    | cons part parts => exact ih parts ((h.write _).bind hv)

theorem write_alike (sql : String) {vs vs' : List Value} (hv : List.Forall₂ R vs vs') {b b' : BoundText}
    (h : b.Alike R b') : ResultsAlike R (write sql vs b) (write sql vs' b') := by
  unfold write
  rw [← hv.length_eq]
  split
  · exact .ok (interleave_alike hv _ h)
  · exact .error _

end Marker

namespace Condition

/-- Both conditions are written alike after alike texts. -/
def WritesAlike (R : Value → Value → Prop) (c c' : Condition) : Prop :=
  ∀ (d : Dialect) (b b' : BoundText), b.Alike R b' → ResultsAlike R (c.write d b) (c'.write d b')

/-- The same conjunction before conditions that are written alike. -/
def MembersAlike (R : Value → Value → Prop) : List (Conjunction × Condition) → List (Conjunction × Condition) → Prop :=
  List.Forall₂ fun m m' => m.1 = m'.1 ∧ m.2.WritesAlike R m'.2

theorem expr_alike (sql : String) {vs vs' : List Value} (h : List.Forall₂ R vs vs') :
    (expr sql vs).WritesAlike R (expr sql vs') := by
  intro d b b' hb
  simp only [write]
  exact Marker.write_alike sql h hb

theorem column_alike (name tail : String) {vs vs' : List Value} (h : List.Forall₂ R vs vs') :
    (column name tail vs).WritesAlike R (column name tail vs') := by
  intro d b b' hb
  simp only [write]
  exact Marker.write_alike tail h (hb.write _)

theorem inList_alike (name : String) {vs vs' : List Value} (h : List.Forall₂ R vs vs') :
    (inList name vs).WritesAlike R (inList name vs') := by
  cases h with
  | nil => exact expr_alike _ .nil
  | cons hv hvs =>
    simp only [inList, List.isEmpty_cons, Bool.false_eq_true, if_false, List.length_cons, hvs.length_eq]
    exact column_alike name _ (.cons hv hvs)

theorem notInList_alike (name : String) {vs vs' : List Value} (h : List.Forall₂ R vs vs') :
    (notInList name vs).WritesAlike R (notInList name vs') := by
  cases h with
  | nil => exact expr_alike _ .nil
  | cons hv hvs =>
    simp only [notInList, List.isEmpty_cons, Bool.false_eq_true, if_false, List.length_cons, hvs.length_eq]
    exact column_alike name _ (.cons hv hvs)

theorem writeMembers_alike {ms ms' : List (Conjunction × Condition)} (h : MembersAlike R ms ms') (d : Dialect)
    (wrapped first : Bool) {b b' : BoundText} (hb : b.Alike R b') :
    ResultsAlike R (writeMembers d wrapped first ms b) (writeMembers d wrapped first ms' b') := by
  induction h generalizing first b b' with
  | nil => simpa only [writeMembers] using .ok hb
  | @cons m m' ms ms' hm _ ih =>
    obtain ⟨conjunction, c⟩ := m
    obtain ⟨conjunction', c'⟩ := m'
    obtain ⟨rfl, hc⟩ := hm
    simp only [writeMembers]
    -- the separator and the parentheses depend on the place of the member only
    have hsep := hb.ite (p := first) (hb.write conjunction.separator)
    have hopen := (hsep.write "(").ite (p := wrapped) hsep
    exact (hc d _ _ hopen).bind fun b b' hb => ih false ((hb.write ")").ite hb)

theorem writeAll_alike {ms ms' : List (Conjunction × Condition)} (h : MembersAlike R ms ms') (d : Dialect)
    {b b' : BoundText} (hb : b.Alike R b') : ResultsAlike R (writeAll d ms b) (writeAll d ms' b') := by
  unfold writeAll
  rw [h.length_eq]
  exact writeMembers_alike h d _ true hb

theorem group_alike {ms ms' : List (Conjunction × Condition)} (h : MembersAlike R ms ms') :
    (group ms).WritesAlike R (group ms') := by
  intro d b b' hb
  rw [write_group, write_group]
  exact writeAll_alike h d hb

theorem tagged_alike {c c' : Condition} (h : c.WritesAlike R c') (conjunction : Conjunction) :
    (c.tagged conjunction).1 = (c'.tagged conjunction).1 ∧
      (c.tagged conjunction).2.WritesAlike R (c'.tagged conjunction).2 :=
  ⟨rfl, group_alike (.cons ⟨rfl, h⟩ .nil)⟩

end Condition

namespace Clause

theorem conditions_alike {ms ms' : List (Conjunction × Condition)} (h : Condition.MembersAlike R ms ms')
    (d : Dialect) (keyword : String) {b b' : BoundText} (hb : b.Alike R b') :
    ResultsAlike R (conditions d keyword ms b) (conditions d keyword ms' b') := by
  cases h with
  | nil => exact .ok hb
  | cons hm hms =>
    refine Condition.writeAll_alike ?_ d (hb.write keyword)
    exact .cons (Condition.tagged_alike hm.2 _ |>.imp_left fun _ => hm.1) (List.forall₂_map_left_iff.2
      (List.forall₂_map_right_iff.2 (hms.imp fun _ _ h => ⟨h.1, (Condition.tagged_alike h.2 _).2⟩)))

theorem terms_alike (keyword : String) (names : List String) {b b' : BoundText} (hb : b.Alike R b') :
    (terms keyword names b).Alike R (terms keyword names b') := by
  unfold terms
  split
  · exact hb
  · exact (hb.write _).write _

theorem number_alike (keyword : String) (n : Option UInt64) {b b' : BoundText} (hb : b.Alike R b') :
    (number keyword n b).Alike R (number keyword n b') := by
  cases n with
  | none => exact hb
  | some n => exact hb.write _

end Clause
end SqlDialects
