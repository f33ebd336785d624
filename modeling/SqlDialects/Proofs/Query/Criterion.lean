import SqlDialects.Proofs.Query.Recipe
import SqlDialects.Proofs.Query.Refusal

/-!
# Conditions from the helpers

The helpers that test a column write as many markers as they have values, and the groups that join their conditions
add neither. So what is built from them alone is never refused, and its values are those that were supplied.
-/

namespace SqlDialects

/-- The values that a test binds: a comparison with null binds none. -/
def Test.values : Test → Value → List Value
  | eq, .null | neq, .null => []
  | _, v => [v]

/-- The calls of helpers that build a condition. -/
inductive Criterion where
  | test (t : Test) (name : String) (v : Value)
  | inList (name : String) (vs : List Value)
  | notInList (name : String) (vs : List Value)
  | isNull (name : String)
  | isNotNull (name : String)
  | all (parts : List Criterion)
  | any (parts : List Criterion)
  | andThen (first second : Criterion)
  | orElse (first second : Criterion)
  /-- The condition of the pair that `tagged` makes. -/
  | tagged (conjunction : Conjunction) (part : Criterion)
  /-- Pairs of a conjunction and a condition, tagged ones or others. -/
  | group (members : List (Conjunction × Criterion))

namespace Criterion

mutual

/-- The condition that the calls build. -/
def condition : Criterion → Condition
  | test t name v => t.condition name v
  | inList name vs => .inList name vs
  | notInList name vs => .notInList name vs
  | isNull name => .isNull name
  | isNotNull name => .isNotNull name
  | all parts => .all (conditions parts)
  | any parts => .any (conditions parts)
  | andThen first second => (condition first).andThen (condition second)
  | orElse first second => (condition first).orElse (condition second)
  | tagged conjunction part => ((condition part).tagged conjunction).2
  | group members => .group (memberConditions members)

def conditions : List Criterion → List Condition
  | [] => []
  | part :: rest => condition part :: conditions rest

def memberConditions : List (Conjunction × Criterion) → List (Conjunction × Condition)
  | [] => []
  | (conjunction, part) :: rest => (conjunction, condition part) :: memberConditions rest

end

mutual

/-- The values supplied, from left to right. -/
def values : Criterion → List Value
  | test t _ v => t.values v
  | inList _ vs | notInList _ vs => vs
  | isNull _ | isNotNull _ => []
  | all parts | any parts => allValues parts
  | andThen first second | orElse first second => values first ++ values second
  | tagged _ part => values part
  | group members => memberValues members

def allValues : List Criterion → List Value
  | [] => []
  | part :: rest => values part ++ allValues rest

def memberValues : List (Conjunction × Criterion) → List Value
  | [] => []
  | (_, part) :: rest => values part ++ memberValues rest

end

end Criterion

/-- None of the expressions is refused, and these are their values. -/
structure Carry (xs : List Expression) (vs : List Value) : Prop where
  accepted : ∀ x ∈ xs, x.refusal? = none
  values : xs.flatMap (·.args) = vs

namespace Carry

variable {xs ys : List Expression} {vs ws : List Value}

theorem nil : Carry [] [] :=
  ⟨by simp, rfl⟩

theorem append (hx : Carry xs vs) (hy : Carry ys ws) : Carry (xs ++ ys) (vs ++ ws) := by
  refine ⟨fun x h => ?_, ?_⟩
  · rcases List.mem_append.1 h with h | h
    · exact hx.accepted x h
    · exact hy.accepted x h
  · rw [List.flatMap_append, hx.values, hy.values]

/-- An expression carries its values if a reader passes as many markers. -/
theorem singleton {sql : String} (h : Marker.Passes none sql.toList vs.length) : Carry [⟨sql, vs⟩] vs := by
  have hcount := Marker.length_split_eq_marks none sql.toList
  have hmarks : Marker.marks none sql.toList = vs.length := by
    obtain ⟨_, hlength⟩ := h
    omega
  refine ⟨fun x hx => ?_, by simp⟩
  obtain rfl := List.mem_singleton.1 hx
  exact if_pos hmarks

theorem yields (h : Carry xs vs) {b : BoundText} {r : Except Error BoundText} (hr : YieldsAll b xs r) :
    Yields b vs none r := by
  have hnone : xs.findSome? Expression.refusal? = none := List.findSome?_eq_none_iff.2 h.accepted
  unfold YieldsAll at hr
  rwa [hnone, h.values] at hr

end Carry

namespace Condition

theorem passes_markers (n : Nat) : Marker.Passes none (markers n).toList n := by
  have hone : Marker.Passes none ['?'] 1 := ⟨rfl, rfl⟩
  have hcomma : Marker.Passes none [','] 0 := ⟨rfl, rfl⟩
  have hchars : (markers n).toList = [','].intercalate (List.replicate n ['?']) := by
    simp [markers, String.toList_intercalate]
  rw [hchars]
  clear hchars
  induction n with
  | zero => exact .nil none
  | succ n ih =>
    cases n with
    | zero => exact hone
    | succ n =>
      have hmore := (hone.append hcomma).append ih
      rw [List.replicate_succ, List.replicate_succ, List.intercalate_cons_cons]
      rwa [Nat.add_zero, Nat.add_comm 1] at hmore

theorem carry_column {tail : String} {vs : List Value} (name : String)
    (h : Marker.Passes none tail.toList vs.length) : Carry (column name tail vs).expressions vs := by
  rw [expressions]
  exact .singleton h

theorem carry_raw (sql : String) (h : Marker.Passes none sql.toList 0) : Carry (raw sql).expressions [] := by
  rw [raw, expressions]
  exact .singleton h

/-- A list of markers in parentheses, behind an operator without any; and something constant for the empty list. -/
theorem carry_list {operator constant : String} (name : String) (hoperator : Marker.Passes none operator.toList 0)
    (hconstant : Marker.Passes none constant.toList 0) (vs : List Value) :
    Carry (if vs.isEmpty then raw constant
      else column name (operator ++ markers vs.length ++ ")") vs).expressions vs := by
  cases vs with
  | nil => exact carry_raw constant hconstant
  | cons v vs =>
    have hclose : Marker.Passes none [')'] 0 := ⟨rfl, rfl⟩
    have htail := (hoperator.append (passes_markers (v :: vs).length)).append hclose
    apply carry_column
    simpa using htail

theorem carry_inList (name : String) (vs : List Value) : Carry (inList name vs).expressions vs :=
  carry_list name ⟨rfl, rfl⟩ ⟨rfl, rfl⟩ vs

theorem carry_notInList (name : String) (vs : List Value) : Carry (notInList name vs).expressions vs :=
  carry_list name ⟨rfl, rfl⟩ ⟨rfl, rfl⟩ vs

theorem carry_isNull (name : String) : Carry (isNull name).expressions [] :=
  carry_column name ⟨rfl, rfl⟩

theorem carry_isNotNull (name : String) : Carry (isNotNull name).expressions [] :=
  carry_column name ⟨rfl, rfl⟩

theorem carry_test (t : Test) (name : String) (v : Value) : Carry (t.condition name v).expressions (t.values v) := by
  cases t with
  | eq =>
    cases v with
    | null => exact carry_isNull name
    | _ => exact carry_column name ⟨rfl, rfl⟩
  | neq =>
    cases v with
    | null => exact carry_isNotNull name
    | _ => exact carry_column name ⟨rfl, rfl⟩
  | gt | gte | lt | lte | like | notLike => exact carry_column name ⟨rfl, rfl⟩

end Condition

namespace Criterion

open Condition (memberExpressions)

theorem memberExpressions_map (conjunction : Conjunction) (cs : List Condition) :
    memberExpressions (cs.map (conjunction, ·)) = cs.flatMap (·.expressions) := by
  induction cs with
  | nil => rfl
  | cons c cs ih => simp [memberExpressions, ih]

mutual

/-- The calls give a condition without a refused expression, and with the values that were supplied. -/
theorem carry_condition (c : Criterion) : Carry c.condition.expressions c.values :=
  match c with
  | test t name v => by
    simp only [condition, values]
    exact Condition.carry_test t name v
  | inList name vs => by
    simp only [condition, values]
    exact Condition.carry_inList name vs
  | notInList name vs => by
    simp only [condition, values]
    exact Condition.carry_notInList name vs
  | isNull name => by
    simp only [condition, values]
    exact Condition.carry_isNull name
  | isNotNull name => by
    simp only [condition, values]
    exact Condition.carry_isNotNull name
  | all parts => by
    simp only [condition, values, Condition.all, Condition.expressions, memberExpressions_map]
    exact carry_conditions parts
  | any parts => by
    simp only [condition, values, Condition.any, Condition.expressions, memberExpressions_map]
    exact carry_conditions parts
  | andThen first second => by
    have hboth := (carry_condition first).append (carry_condition second)
    simpa [condition, values, Condition.andThen, Condition.expressions, memberExpressions] using hboth
  | orElse first second => by
    have hboth := (carry_condition first).append (carry_condition second)
    simpa [condition, values, Condition.orElse, Condition.expressions, memberExpressions] using hboth
  | tagged conjunction part => by
    simp only [condition, values, Condition.expressions_tagged]
    exact carry_condition part
  | group members => by
    simp only [condition, values, Condition.expressions]
    exact carry_memberConditions members

theorem carry_conditions (parts : List Criterion) :
    Carry ((conditions parts).flatMap (·.expressions)) (allValues parts) :=
  match parts with
  | [] => by
    simp only [conditions, allValues]
    exact .nil
  | part :: rest => by
    simp only [conditions, allValues, List.flatMap_cons]
    exact (carry_condition part).append (carry_conditions rest)

theorem carry_memberConditions (members : List (Conjunction × Criterion)) :
    Carry (memberExpressions (memberConditions members)) (memberValues members) :=
  match members with
  | [] => by
    simp only [memberConditions, memberValues, memberExpressions]
    exact .nil
  | (_, part) :: rest => by
    simp only [memberConditions, memberValues, memberExpressions]
    exact (carry_condition part).append (carry_memberConditions rest)

end

/-- What the helpers build has a text in every dialect, and its values are those that were supplied, from left to
right. -/
theorem toSql_criterion (d : Dialect) (c : Criterion) : ∃ sql, toSql d c.condition = .ok ⟨sql, c.values⟩ := by
  have hyields : Yields .empty c.values none (Writable.write d c.condition .empty) :=
    (carry_condition c).yields (Condition.yieldsAll_write d c.condition .empty)
  obtain ⟨hform, _⟩ := hyields.endIn
  exact hform

/-- An empty list and a null bind nothing; a question mark in a name is no place for a value. -/
example :
    let c : Criterion := .orElse (.all [.test .eq "a?" .null, .inList "b" []]) (.inList "c" [.bool true, .null])
    toSql .postgres c.condition =
      .ok ⟨"((\"a?\" IS NULL) AND (1 = 0)) OR (\"c\" IN ($1,$2))", [.bool true, .null]⟩ := by
  rfl

end Criterion
end SqlDialects
