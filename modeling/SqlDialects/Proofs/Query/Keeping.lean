import SqlDialects.Query.Condition

/-!
# What the writing of conditions keeps

A property of bound texts that each single step of the writing keeps is kept by the writing of a whole condition.
The property may depend on how many parentheses are open.
-/

namespace SqlDialects.Condition

mutual

/-- The texts of all expressions and tests in a condition satisfy `p`. -/
def Leaves (p : String → Prop) : Condition → Prop
  | expr sql _ => p sql
  | column _ tail _ => p tail
  | group members => MemberLeaves p members

def MemberLeaves (p : String → Prop) : List (Conjunction × Condition) → Prop
  | [] => True
  | (_, c) :: rest => Leaves p c ∧ MemberLeaves p rest

end

/-- The single steps keep `P k`, where `k` parentheses are open; the texts of leaves may be taken to satisfy `p`. -/
structure Keeps (d : Dialect) (p : String → Prop) (P : Nat → BoundText → Prop) : Prop where
  separator : ∀ {k b} (conjunction : Conjunction), P k b → P k (b.write conjunction.separator)
  opened : ∀ {k b}, P k b → P (k + 1) (b.write "(")
  closed : ∀ {k b}, P (k + 1) b → P k (b.write ")")
  name : ∀ {k b} (name : String), P k b → P k (b.write (d.quoteIdent name))
  leaf : ∀ {k b b' sql args}, p sql → P k b → Marker.write sql args b = .ok b' → P k b'

namespace Keeps

variable {d : Dialect} {p : String → Prop} {P : Nat → BoundText → Prop}

mutual

theorem write (hP : Keeps d p P) (c : Condition) (hc : c.Leaves p) {k : Nat} {b b' : BoundText} (h : P k b)
    (hw : c.write d b = .ok b') : P k b' :=
  match c with
  | expr sql args => by
    simp only [Condition.write] at hw
    exact hP.leaf hc h hw
  | column name tail args => by
    simp only [Condition.write] at hw
    exact hP.leaf hc (hP.name name h) hw
  | group members => by
    simp only [Condition.write] at hw
    exact hP.writeMembers _ true members hc h hw

theorem writeMembers (hP : Keeps d p P) (wrapped first : Bool) (members : List (Conjunction × Condition))
    (hm : MemberLeaves p members) {k : Nat} {b b' : BoundText} (h : P k b)
    (hw : Condition.writeMembers d wrapped first members b = .ok b') : P k b' :=
  match members with
  | [] => by
    simp only [Condition.writeMembers, Except.ok.injEq] at hw
    exact hw ▸ h
  | (conjunction, c) :: rest => by
    simp only [Condition.writeMembers] at hw
    have hsep : P k (if first then b else b.write conjunction.separator) := by
      cases first
      · exact hP.separator conjunction h
      · exact h
    generalize (if first then b else b.write conjunction.separator) = a at hw hsep
    cases hc : c.write d (if wrapped then a.write "(" else a) with
    | error e => rw [hc] at hw; exact absurd hw nofun
    | ok a' =>
      rw [hc] at hw
      have hclosed : P k (if wrapped then a'.write ")" else a') := by
        cases wrapped
        · exact hP.write c hm.1 hsep hc
        · exact hP.closed (hP.write c hm.1 (hP.opened hsep) hc)
      exact hP.writeMembers wrapped false rest hm.2 hclosed hw

end

end Keeps
end SqlDialects.Condition
