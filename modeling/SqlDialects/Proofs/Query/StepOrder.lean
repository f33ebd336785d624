import SqlDialects.Proofs.Query.Refusal

/-!
# The order of the steps that build a statement

Each step of building touches one clause. So steps for different clauses may trade places, and a statement is known
from its steps for each clause. The clauses are written in a fixed order: the values stand in that order, those of
one clause in the order of its steps, and the placeholders are counted along the text.
-/

namespace SqlDialects

/-- The clauses of the statements. -/
inductive ClauseName where
  | columns
  | source
  | distinct
  | joins
  | assignments
  | rows
  | filter
  | groupBy
  | having
  | orderBy
  | limit
  | offset
  | returning
  deriving DecidableEq

section Steps

variable {σ τ : Type} {step : σ → τ → σ} {clause : τ → ClauseName} {steps steps' : List τ}

/-- The same steps for each clause, in the same order. -/
def SameByClause (clause : τ → ClauseName) (steps steps' : List τ) : Prop :=
  ∀ name, steps.filter (clause · = name) = steps'.filter (clause · = name)

/-- A step may be made before all steps that touch other clauses. -/
theorem foldl_step_comm (hcomm : ∀ s a b, clause a ≠ clause b → step (step s a) b = step (step s b) a) {a : τ}
    (hsteps : ∀ b ∈ steps, clause b ≠ clause a) (s : σ) :
    steps.foldl step (step s a) = step (steps.foldl step s) a := by
  induction steps generalizing s with
  | nil => rfl
  | cons b steps ih =>
    obtain ⟨hb, hrest⟩ := List.forall_mem_cons.1 hsteps
    rw [List.foldl_cons, List.foldl_cons, hcomm s a b hb.symm, ih hrest]

theorem foldl_eq_of_sameByClause (hcomm : ∀ s a b, clause a ≠ clause b → step (step s a) b = step (step s b) a)
    (h : SameByClause clause steps steps') (s : σ) : steps.foldl step s = steps'.foldl step s := by
  induction steps generalizing steps' s with
  | nil =>
    cases steps' with
    | nil => rfl
    | cons b steps' => exact absurd (h (clause b)) (by simp)
  | cons a steps ih =>
    -- the first step for the clause of `a` on the other side is `a` itself, and the steps before it touch other clauses
    have hclause := (h (clause a)).symm
    rw [List.filter_cons_of_pos (by simp)] at hclause
    obtain ⟨before, after, rfl, hbefore, -, hafter⟩ := List.filter_eq_cons_iff.1 hclause
    have hother : ∀ b ∈ before, clause b ≠ clause a := by simpa using hbefore
    have hrest : SameByClause clause steps (before ++ after) := by
      intro name
      by_cases hname : clause a = name
      · subst hname
        rw [List.filter_append, List.filter_eq_nil_iff.2 hbefore, hafter, List.nil_append]
      · have hsame := h name
        simpa [hname] using hsame
    rw [List.foldl_cons, ih hrest, List.foldl_append, List.foldl_append, List.foldl_cons, foldl_step_comm hcomm hother]

/-- What the steps for one clause bind, in their order. -/
def clauseValues (clause : τ → ClauseName) (values : τ → List Value) (steps : List τ) (name : ClauseName) :
    List Value :=
  (steps.filter (clause · = name)).flatMap values

/-- Where each step appends what it binds to its own clause, each clause has what its steps bound. -/
theorem foldl_binds {valuesAt : σ → ClauseName → List Value} {values : τ → List Value}
    (hstep : ∀ s a name, valuesAt (step s a) name = valuesAt s name ++ if clause a = name then values a else [])
    (steps : List τ) (s : σ) (name : ClauseName) :
    valuesAt (steps.foldl step s) name = valuesAt s name ++ clauseValues clause values steps name := by
  induction steps generalizing s with
  | nil => simp [clauseValues]
  | cons a steps ih =>
    rw [List.foldl_cons, ih, hstep, clauseValues, clauseValues, List.filter_cons]
    by_cases hname : clause a = name <;> simp [hname]

theorem foldl_binds_of_none {valuesAt : σ → ClauseName → List Value} {values : τ → List Value}
    (hstep : ∀ s a name, valuesAt (step s a) name = valuesAt s name ++ if clause a = name then values a else []) {s : σ}
    (hnone : ∀ name, valuesAt s name = []) (steps : List τ) :
    valuesAt (steps.foldl step s) = clauseValues clause values steps := by
  funext name
  rw [foldl_binds hstep, hnone, List.nil_append]

end Steps

namespace Condition

/-- The values of a condition, from left to right. -/
def values (c : Condition) : List Value :=
  c.expressions.flatMap (·.args)

def memberValues (ms : List (Conjunction × Condition)) : List Value :=
  (memberExpressions ms).flatMap (·.args)

theorem memberExpressions_append (ms ms' : List (Conjunction × Condition)) :
    memberExpressions (ms ++ ms') = memberExpressions ms ++ memberExpressions ms' := by
  induction ms with
  | nil => rfl
  | cons m ms ih => simp [memberExpressions, ih]

@[simp] theorem memberValues_concat (ms : List (Conjunction × Condition)) (conjunction : Conjunction) (c : Condition) :
    memberValues (ms ++ [(conjunction, c)]) = memberValues ms ++ c.values := by
  simp [memberValues, values, memberExpressions_append, memberExpressions]

end Condition

/-! ## The steps of the four statements -/

namespace Select

def Step.clause : Step → ClauseName
  | columns _ => .columns
  | source _ => .source
  | distinct => .distinct
  | join _ _ _ => .joins
  | filter _ _ => .filter
  | groupBy _ => .groupBy
  | having _ _ => .having
  | orderBy _ | orderByDesc _ => .orderBy
  | limit _ => .limit
  | offset _ => .offset

def Step.values : Step → List Value
  | join _ _ c | filter _ c | having _ c => c.values
  | _ => []

theorem step_comm (s : Select) (a b : Step) (h : a.clause ≠ b.clause) : (s.step a).step b = (s.step b).step a := by
  cases a <;> cases b <;> first | rfl | exact absurd rfl h

/-- What a statement binds in a clause. -/
def valuesAt (s : Select) : ClauseName → List Value
  | .joins => s.joins.flatMap (·.on.values)
  | .filter => Condition.memberValues s.filter
  | .having => Condition.memberValues s.having
  | _ => []

theorem valuesAt_step (s : Select) (a : Step) (name : ClauseName) :
    (s.step a).valuesAt name = s.valuesAt name ++ if a.clause = name then a.values else [] := by
  cases a <;> cases name <;> simp [valuesAt, step, Step.clause, Step.values]

theorem valuesAt_ofSteps (steps : List Step) :
    (ofSteps steps).valuesAt = clauseValues Step.clause Step.values steps :=
  foldl_binds_of_none valuesAt_step (fun name => by cases name <;> rfl) steps

theorem flatMap_expressions (s : Select) :
    s.expressions.flatMap (·.args) = [.joins, .filter, .having].flatMap s.valuesAt := by
  simp [expressions, valuesAt, Condition.memberValues, Condition.values, List.flatMap_assoc]

end Select

namespace Insert

def Step.clause : Step → ClauseName
  | into _ => .source
  | columns _ => .columns
  | row _ => .rows
  | returning _ => .returning

def Step.values : Step → List Value
  | row values => values
  | _ => []

theorem step_comm (s : Insert) (a b : Step) (h : a.clause ≠ b.clause) : (s.step a).step b = (s.step b).step a := by
  cases a <;> cases b <;> first | rfl | exact absurd rfl h

def valuesAt (s : Insert) : ClauseName → List Value
  | .rows => s.rows.flatten
  | _ => []

theorem valuesAt_step (s : Insert) (a : Step) (name : ClauseName) :
    (s.step a).valuesAt name = s.valuesAt name ++ if a.clause = name then a.values else [] := by
  cases a <;> cases name <;> simp [valuesAt, step, Step.clause, Step.values]

theorem valuesAt_ofSteps (steps : List Step) :
    (ofSteps steps).valuesAt = clauseValues Step.clause Step.values steps :=
  foldl_binds_of_none valuesAt_step (fun name => by cases name <;> rfl) steps

end Insert

namespace Update

def Step.clause : Step → ClauseName
  | set _ _ | setExpr _ _ _ => .assignments
  | filter _ _ => .filter
  | orderBy _ => .orderBy
  | limit _ => .limit

def Step.values : Step → List Value
  | set _ v => [v]
  | setExpr _ _ args => args
  | filter _ c => c.values
  | _ => []

theorem step_comm (s : Update) (a b : Step) (h : a.clause ≠ b.clause) : (s.step a).step b = (s.step b).step a := by
  cases a <;> cases b <;> first | rfl | exact absurd rfl h

def valuesAt (s : Update) : ClauseName → List Value
  | .assignments => s.assignments.flatMap (·.2.expression.args)
  | .filter => Condition.memberValues s.filter
  | _ => []

theorem valuesAt_step (s : Update) (a : Step) (name : ClauseName) :
    (s.step a).valuesAt name = s.valuesAt name ++ if a.clause = name then a.values else [] := by
  cases a <;> cases name <;> simp [valuesAt, step, Step.clause, Step.values, Assigned.expression]

theorem valuesAt_ofSteps (table : String) (steps : List Step) :
    (ofSteps table steps).valuesAt = clauseValues Step.clause Step.values steps :=
  foldl_binds_of_none valuesAt_step (fun name => by cases name <;> rfl) steps

theorem flatMap_expressions (s : Update) :
    s.expressions.flatMap (·.args) = [.assignments, .filter].flatMap s.valuesAt := by
  simp [expressions, valuesAt, Condition.memberValues, List.flatMap_map]

end Update

namespace Delete

def Step.clause : Step → ClauseName
  | filter _ _ => .filter
  | orderBy _ => .orderBy
  | limit _ => .limit

def Step.values : Step → List Value
  | filter _ c => c.values
  | _ => []

theorem step_comm (s : Delete) (a b : Step) (h : a.clause ≠ b.clause) : (s.step a).step b = (s.step b).step a := by
  cases a <;> cases b <;> first | rfl | exact absurd rfl h

def valuesAt (s : Delete) : ClauseName → List Value
  | .filter => Condition.memberValues s.filter
  | _ => []

theorem valuesAt_step (s : Delete) (a : Step) (name : ClauseName) :
    (s.step a).valuesAt name = s.valuesAt name ++ if a.clause = name then a.values else [] := by
  cases a <;> cases name <;> simp [valuesAt, step, Step.clause, Step.values]

theorem valuesAt_ofSteps (table : String) (steps : List Step) :
    (ofSteps table steps).valuesAt = clauseValues Step.clause Step.values steps :=
  foldl_binds_of_none valuesAt_step (fun name => by cases name <;> rfl) steps

end Delete

/-! ## The places of the values -/

namespace BoundText

/-- The stretches of text around the values. -/
def stretches : List Piece → List (List Char)
  | [] => [[]]
  | .text s :: rest => (stretches rest).modifyHead (s.toList ++ ·)
  | .value _ :: rest => [] :: stretches rest

theorem length_stretches (ps : List Piece) : (stretches ps).length = (valuesOf ps).length + 1 := by
  induction ps with
  | nil => rfl
  | cons p ps ih => cases p <;> simp [stretches, valuesOf, ih]

theorem filled_modifyHead (f : Nat → Value → String) (n : Nat) (cs : List Char) {parts : List (List Char)}
    (h : parts ≠ []) (vs : List Value) :
    Marker.filled f n (parts.modifyHead (cs ++ ·)) vs = cs ++ Marker.filled f n parts vs := by
  cases parts with
  | nil => exact absurd rfl h
  | cons part parts => cases vs <;> simp [Marker.filled]

theorem toList_textOf (f : Nat → Value → String) (n : Nat) (ps : List Piece) :
    (textOf f n ps).toList = Marker.filled f n (stretches ps) (valuesOf ps) := by
  induction ps generalizing n with
  | nil => simp [textOf, stretches, valuesOf, Marker.filled]
  | cons p ps ih =>
    cases p with
    | text s =>
      have hne : stretches ps ≠ [] := List.ne_nil_of_length_pos (by rw [length_stretches]; omega)
      rw [textOf, String.toList_append, ih, stretches, valuesOf, filled_modifyHead _ _ _ hne]
    | value v => simp [textOf, stretches, valuesOf, Marker.filled, ih]

end BoundText

/-- The two texts of a statement have the same stretches around its values. The one numbers its placeholders along the
text where they have numbers, and the other has the literals. -/
def PlacedInOrder (d : Dialect) (p : Prepared) (raw : String) : Prop :=
  ∃ parts : List (List Char), parts.length = p.args.length + 1 ∧
    p.sql.toList = Marker.filled (fun k _ => if d = .postgres then "$" ++ toString (k + 1) else "?") 0 parts p.args ∧
    raw.toList = Marker.filled (fun _ v => d.encodeValue v) 0 parts p.args

theorem Dialect.placeholder_eq (d : Dialect) (k : Nat) :
    d.placeholder k = if d = .postgres then "$" ++ toString (k + 1) else "?" := by
  cases d <;> rfl

theorem placedInOrder_of_toSql {α : Type} [Writable α] {d : Dialect} {a : α} {p : Prepared}
    (h : toSql d a = .ok p) : ∃ raw, toRawSql d a = .ok raw ∧ PlacedInOrder d p raw := by
  obtain ⟨b, hb, rfl⟩ := toSql_eq_ok.1 h
  refine ⟨b.renderLiteral d, toRawSql_eq_ok.2 ⟨b, hb, rfl⟩, BoundText.stretches b.pieces,
    BoundText.length_stretches b.pieces, ?_, BoundText.toList_textOf _ 0 b.pieces⟩
  simp only [← Dialect.placeholder_eq]
  exact BoundText.toList_textOf _ 0 b.pieces

/-! ## Statements by their steps -/

/-- The steps that build a statement. -/
inductive Construction where
  | select (steps : List Select.Step)
  | insert (steps : List Insert.Step)
  | update (table : String) (steps : List Update.Step)
  | delete (table : String) (steps : List Delete.Step)

namespace Construction

/-- The statement that the steps build. -/
def query : Construction → Query
  | select steps => .select (.ofSteps steps)
  | insert steps => .insert (.ofSteps steps)
  | update table steps => .update (.ofSteps table steps)
  | delete table steps => .delete (.ofSteps table steps)

/-- What the steps bind, clause by clause in the order of the text. -/
def values : Construction → List Value
  | select steps => [.joins, .filter, .having].flatMap (clauseValues Select.Step.clause Select.Step.values steps)
  | insert steps => clauseValues Insert.Step.clause Insert.Step.values steps .rows
  | update _ steps => [.assignments, .filter].flatMap (clauseValues Update.Step.clause Update.Step.values steps)
  | delete _ steps => clauseValues Delete.Step.clause Delete.Step.values steps .filter

/-- The steps of two constructions differ only in how those for different clauses are mixed. -/
inductive MixedAs : Construction → Construction → Prop
  | select {steps steps' : List Select.Step} (h : SameByClause Select.Step.clause steps steps') :
      MixedAs (select steps) (select steps')
  | insert {steps steps' : List Insert.Step} (h : SameByClause Insert.Step.clause steps steps') :
      MixedAs (insert steps) (insert steps')
  | update (table : String) {steps steps' : List Update.Step} (h : SameByClause Update.Step.clause steps steps') :
      MixedAs (update table steps) (update table steps')
  | delete (table : String) {steps steps' : List Delete.Step} (h : SameByClause Delete.Step.clause steps steps') :
      MixedAs (delete table steps) (delete table steps')

variable {x y : Construction}

theorem query_eq_of_mixedAs (h : x.MixedAs y) : x.query = y.query := by
  cases h with
  | select h => exact congrArg Query.select (foldl_eq_of_sameByClause Select.step_comm h {})
  | insert h => exact congrArg Query.insert (foldl_eq_of_sameByClause Insert.step_comm h {})
  | update table h => exact congrArg Query.update (foldl_eq_of_sameByClause Update.step_comm h { table := table })
  | delete table h => exact congrArg Query.delete (foldl_eq_of_sameByClause Delete.step_comm h { table := table })

theorem values_query (x : Construction) : x.query.values = x.values := by
  cases x with
  | select steps => rw [query, Query.values, Select.flatMap_expressions, Select.valuesAt_ofSteps, values]
  | insert steps => exact congrFun (Insert.valuesAt_ofSteps steps) .rows
  | update table steps => rw [query, Query.values, Update.flatMap_expressions, Update.valuesAt_ofSteps, values]
  | delete table steps => exact congrFun (Delete.valuesAt_ofSteps table steps) .filter

theorem placedInOrder {d : Dialect} {p : Prepared} (h : x.query.toSql d = .ok p) :
    ∃ raw, x.query.toRawSql d = .ok raw ∧ PlacedInOrder d p raw := by
  cases x with
  | select steps => exact placedInOrder_of_toSql h
  | insert steps => exact placedInOrder_of_toSql h
  | update table steps => exact placedInOrder_of_toSql h
  | delete table steps => exact placedInOrder_of_toSql h

theorem args_eq_values {d : Dialect} {p : Prepared} (h : x.query.toSql d = .ok p) : p.args = x.values := by
  have hend := x.query.endIn_refusal d
  rw [h] at hend
  cases hrefusal : x.query.refusal? d with
  | some e =>
    rw [hrefusal] at hend
    exact absurd hend.1 nofun
  | none =>
    rw [hrefusal] at hend
    obtain ⟨⟨sql, hp⟩, _⟩ := hend
    rw [Except.ok.inj hp, values_query]

/-- Steps for different clauses may be made in any order, whether there is a text or a refusal. If there is a text, its
values are those of the steps, clause by clause, and its placeholders are counted along them. -/
theorem clauses_in_order (d : Dialect) (x : Construction) :
    (∀ y, x.MixedAs y → x.query.toSql d = y.query.toSql d ∧ x.query.toRawSql d = y.query.toRawSql d) ∧
      ∀ p, x.query.toSql d = .ok p →
        p.args = x.values ∧ ∃ raw, x.query.toRawSql d = .ok raw ∧ PlacedInOrder d p raw := by
  refine ⟨fun y h => ?_, fun p h => ⟨args_eq_values h, placedInOrder h⟩⟩
  rw [query_eq_of_mixedAs h]
  exact ⟨rfl, rfl⟩

/-- A value of `HAVING` that is given first is bound last. -/
theorem clauses_in_order_of_having_first :
    let having : Select.Step := .having .and (.expr "count(*) > ?" [.int 1])
    let filter : Select.Step := .filter .or (.group [(.and, .expr "a = ?" [.int 2]), (.or, .expr "b = ?" [.int 3])])
    let join : Select.Step := .join .left "u" (.expr "u.c = ?" [.int 4])
    let x := select [having, filter, .source "t", .groupBy ["a"], join]
    let y := select [.groupBy ["a"], join, filter, .source "t", having]
    x.MixedAs y ∧ x.query.toSql .postgres = y.query.toSql .postgres ∧
      ∃ p raw, x.query.toSql .postgres = .ok p ∧ p.args = [.int 4, .int 2, .int 3, .int 1] ∧
        x.query.toRawSql .postgres = .ok raw ∧ PlacedInOrder .postgres p raw := by
  intro having filter join x y
  have hmixed : x.MixedAs y := .select fun name => by cases name <;> rfl
  have haccepted : x.query.refusal? .postgres = none := by decide +kernel
  have hend := x.query.endIn_refusal .postgres
  rw [haccepted] at hend
  obtain ⟨⟨sql, hp⟩, _⟩ := hend
  obtain ⟨hsame, hsql⟩ := clauses_in_order .postgres x
  obtain ⟨hargs, raw, hraw, hplaced⟩ := hsql _ hp
  exact ⟨hmixed, (hsame y hmixed).1, _, raw, hp, hargs, hraw, hplaced⟩

end Construction
end SqlDialects
