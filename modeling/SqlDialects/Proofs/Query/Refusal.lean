import SqlDialects.Proofs.Query.Rescanning
import SqlDialects.Query.Delete
import SqlDialects.Query.Insert
import SqlDialects.Query.Select
import SqlDialects.Query.Update

/-!
# When a statement has no text

A statement is refused for what it lacks, for the width of its rows, for columns that the dialect cannot return, or
for an expression with too few or too many values. Of several reasons the first in the order of the text counts.
Nothing else is ever refused, and but for the returned columns the dialect has no say in it.
-/

namespace SqlDialects

namespace Marker

/-- How many markers stand outside quotations in a text that is read from a quotation on, or from outside of any. -/
def marks : Option Char → List Char → Nat
  | _, [] => 0
  | none, c :: cs => if c = '?' then marks none cs + 1 else marks (step none c) cs
  | some q, c :: cs => marks (step (some q) c) cs

theorem length_split_eq_marks (state : Option Char) (cs : List Char) :
    (split state cs).length = marks state cs + 1 := by
  induction cs generalizing state with
  | nil => cases state <;> rfl
  | cons c cs ih =>
    cases state with
    | none =>
      by_cases hc : c = '?'
      · subst hc
        rw [length_split_mark, ih, marks, if_pos rfl]
      · rw [length_split_other (fun h => hc h.2), ih, marks, if_neg hc]
    | some q =>
      have hquoted : ¬ (some q = none ∧ c = '?') := by simp
      rw [length_split_other hquoted, ih, marks]

theorem count_eq_marks (sql : String) : count sql = marks none sql.toList := by
  have hcount := length_split sql
  have hmarks := length_split_eq_marks none sql.toList
  omega

end Marker

/-- A text with a marker for each of its values. -/
structure Expression where
  sql : String
  args : List Value

/-- What is wrong with an expression: it has another number of markers than of values. -/
def Expression.refusal? (x : Expression) : Option Error :=
  let places := Marker.marks none x.sql.toList
  if places = x.args.length then none else some (.placeholderCount places x.args.length)

namespace Condition

mutual

/-- The expressions and tests of a condition, from left to right. -/
def expressions : Condition → List Expression
  | expr sql args => [⟨sql, args⟩]
  | column _ tail args => [⟨tail, args⟩]
  | group members => memberExpressions members

def memberExpressions : List (Conjunction × Condition) → List Expression
  | [] => []
  | (_, c) :: rest => expressions c ++ memberExpressions rest

end

end Condition

/-- What is set, as an expression: a value is a single marker. -/
def Assigned.expression : Assigned → Expression
  | value v => ⟨"?", [v]⟩
  | expr sql args => ⟨sql, args⟩

def Select.expressions (s : Select) : List Expression :=
  s.joins.flatMap (·.on.expressions) ++ Condition.memberExpressions s.filter ++ Condition.memberExpressions s.having

def Update.expressions (s : Update) : List Expression :=
  s.assignments.map (·.2.expression) ++ Condition.memberExpressions s.filter

def Delete.expressions (s : Delete) : List Expression :=
  Condition.memberExpressions s.filter

def Select.refusal? (s : Select) : Option Error :=
  if s.table = "" then some .tableNotSpecified
  else s.expressions.findSome? Expression.refusal?

/-- What is wrong with a row: it has another width than the columns. -/
def Insert.rowRefusal? (width : Nat) (row : List Value) : Option Error :=
  if row.length = width then none else some (.placeholderCount width row.length)

def Insert.returningRefusal? (d : Dialect) (names : List String) : Option Error :=
  if names = [] ∨ d.supportsReturning then none else some (.unsupportedFeature ("RETURNING on " ++ d.name))

def Insert.refusal? (d : Dialect) (s : Insert) : Option Error :=
  if s.table = "" then some .tableNotSpecified
  else if s.columns = [] then some .columnNotSpecified
  else if s.rows = [] then some (.placeholderCount s.columns.length 0)
  else (s.rows.findSome? (Insert.rowRefusal? s.columns.length)).or (Insert.returningRefusal? d s.returning)

def Update.refusal? (s : Update) : Option Error :=
  if s.table = "" then some .tableNotSpecified
  else if s.assignments = [] then some .columnNotSpecified
  else s.expressions.findSome? Expression.refusal?

def Delete.refusal? (s : Delete) : Option Error :=
  if s.table = "" then some .tableNotSpecified
  else s.expressions.findSome? Expression.refusal?

/-! ## One step after another -/

/-- What writing at the end of a text leads to: to a refusal, or to a text with some more values. -/
inductive Yields (b : BoundText) (values : List Value) : Option Error → Except Error BoundText → Prop
  | refused (e : Error) : Yields b values (some e) (.error e)
  | written {b' : BoundText} (h : b'.args = b.args ++ values) : Yields b values none (.ok b')

variable {b b' : BoundText} {vs ws : List Value} {refusal later : Option Error}
  {r x : Except Error BoundText} {f : BoundText → Except Error BoundText} {xs ys : List Expression}

namespace Yields

theorem of_ok (h : Yields b vs refusal (.ok b')) : refusal = none ∧ b'.args = b.args ++ vs := by
  cases h with
  | written h => exact ⟨rfl, h⟩

theorem of_written (hargs : b'.args = b.args ++ vs) (h : Yields b' ws later r) :
    Yields b (vs ++ ws) later r := by
  cases h with
  | refused e => exact .refused e
  | written h => exact .written (by rw [h, hargs, List.append_assoc])

theorem of_args (hargs : b'.args = b.args) (h : Yields b' vs refusal r) : Yields b vs refusal r :=
  of_written (hargs.trans (List.append_nil b.args).symm) h

theorem bind (hx : Yields b vs refusal x) (hf : ∀ b', Yields b' ws later (f b')) :
    Yields b (vs ++ ws) (refusal.or later) (x >>= f) := by
  cases hx with
  | refused e => exact .refused e
  | @written b' hargs => exact of_written hargs (hf b')

/-- What is written last may bind nothing. -/
theorem finish (hx : Yields b vs refusal x) {g : BoundText → BoundText} (hg : ∀ b, (g b).args = b.args) :
    Yields b vs refusal (x >>= fun b => pure (g b)) := by
  have hlast (b' : BoundText) : Yields b' [] none (.ok (g b')) := .written (by rw [hg, List.append_nil])
  have h := hx.bind hlast
  rwa [List.append_nil, Option.or_none] at h

end Yields

/-- What writing expressions leads to: the first refusal, or the values of all. -/
def YieldsAll (b : BoundText) (xs : List Expression) (r : Except Error BoundText) : Prop :=
  Yields b (xs.flatMap (·.args)) (xs.findSome? Expression.refusal?) r

namespace YieldsAll

theorem nil (b : BoundText) : YieldsAll b [] (.ok b) :=
  .written (List.append_nil b.args).symm

theorem append (hx : YieldsAll b xs x) (hf : ∀ b', YieldsAll b' ys (f b')) : YieldsAll b (xs ++ ys) (x >>= f) := by
  unfold YieldsAll
  rw [List.flatMap_append, List.findSome?_append]
  exact Yields.bind hx hf

end YieldsAll

/-! ## Expressions and conditions -/

theorem Marker.yieldsAll_write (sql : String) (args : List Value) (b : BoundText) :
    YieldsAll b [⟨sql, args⟩] (write sql args b) := by
  unfold YieldsAll write
  rw [count_eq_marks]
  by_cases h : marks none sql.toList = args.length
  · have hlength : (split none sql.toList).length = args.length + 1 := by rw [length_split_eq_marks, h]
    have hargs := args_interleave hlength b
    simpa [Expression.refusal?, h] using Yields.written hargs
  · simpa [Expression.refusal?, h] using Yields.refused _

namespace Condition

mutual

theorem yieldsAll_write (d : Dialect) (c : Condition) (b : BoundText) : YieldsAll b c.expressions (c.write d b) :=
  match c with
  | expr sql args => by
    simp only [write, expressions]
    exact Marker.yieldsAll_write sql args b
  | column name tail args => by
    simp only [write, expressions]
    exact Yields.of_args (BoundText.args_write b _) (Marker.yieldsAll_write tail args _)
  | group members => by
    simp only [write, expressions]
    exact yieldsAll_writeMembers d _ true members b

theorem yieldsAll_writeMembers (d : Dialect) (wrapped first : Bool) (members : List (Conjunction × Condition))
    (b : BoundText) : YieldsAll b (memberExpressions members) (writeMembers d wrapped first members b) :=
  match members with
  | [] => by
    simp only [writeMembers, memberExpressions]
    exact .nil b
  | (conjunction, c) :: rest => by
    simp only [writeMembers, memberExpressions]
    have hsep : (if first then b else b.write conjunction.separator).args = b.args := by
      cases first <;> simp
    have hopen : ∀ b : BoundText, (if wrapped then b.write "(" else b).args = b.args := by
      intro b
      cases wrapped <;> simp
    have hclose : ∀ b : BoundText, (if wrapped then b.write ")" else b).args = b.args := by
      intro b
      cases wrapped <;> simp
    have hmember := Yields.of_args ((hopen _).trans hsep) (yieldsAll_write d c _)
    exact YieldsAll.append hmember fun b' => Yields.of_args (hclose b') (yieldsAll_writeMembers d wrapped false rest _)

end

theorem yieldsAll_writeAll (d : Dialect) (members : List (Conjunction × Condition)) (b : BoundText) :
    YieldsAll b (memberExpressions members) (writeAll d members b) :=
  yieldsAll_writeMembers d _ true members b

theorem expressions_tagged (conjunction : Conjunction) (c : Condition) :
    (c.tagged conjunction).2.expressions = c.expressions := by
  simp [tagged, expressions, memberExpressions]

theorem memberExpressions_tagged (members : List (Conjunction × Condition)) :
    memberExpressions (members.map fun (conjunction, c) => c.tagged conjunction) = memberExpressions members := by
  induction members with
  | nil => rfl
  | cons m rest ih =>
    obtain ⟨conjunction, c⟩ := m
    have hhead := expressions_tagged conjunction c
    simp only [tagged] at hhead
    simp only [List.map_cons, tagged, memberExpressions, hhead] at ih ⊢
    rw [ih]

end Condition

namespace Clause

theorem yieldsAll_conditions (d : Dialect) (keyword : String) (members : List (Conjunction × Condition))
    (b : BoundText) : YieldsAll b (Condition.memberExpressions members) (conditions d keyword members b) := by
  cases members with
  | nil => exact .nil b
  | cons m rest =>
    rw [← Condition.memberExpressions_tagged]
    exact Yields.of_args (BoundText.args_write b keyword) (Condition.yieldsAll_writeAll d _ _)

@[simp] theorem args_terms (keyword : String) (names : List String) (b : BoundText) :
    (terms keyword names b).args = b.args := by
  unfold terms
  split <;> simp

@[simp] theorem args_number (keyword : String) (n : Option UInt64) (b : BoundText) :
    (number keyword n b).args = b.args := by
  cases n <;> simp [number]

end Clause

/-! ## Statements -/

namespace Select

theorem yieldsAll_writeJoins (d : Dialect) (joins : List Join) (b : BoundText) :
    YieldsAll b (joins.flatMap (·.on.expressions)) (writeJoins d joins b) := by
  induction joins generalizing b with
  | nil => exact .nil b
  | cons j rest ih =>
    rw [List.flatMap_cons, writeJoins]
    refine YieldsAll.append ?_ ih
    exact Yields.of_args (by simp) (Condition.yieldsAll_write d j.on _)

theorem args_writeHead (d : Dialect) (s : Select) (b : BoundText) : (writeHead d s b).args = b.args := by
  unfold writeHead
  split <;> simp

theorem yields_write (d : Dialect) (s : Select) (b : BoundText) :
    Yields b (s.expressions.flatMap (·.args)) s.refusal? (s.write d b) := by
  unfold refusal? write
  by_cases htable : s.table = ""
  · simpa [htable] using Yields.refused _
  · rw [if_neg htable, if_neg (by simpa using htable), expressions, List.append_assoc]
    have hjoins := Yields.of_args (args_writeHead d s b) (yieldsAll_writeJoins d s.joins _)
    refine YieldsAll.append hjoins fun b => ?_
    refine YieldsAll.append (Clause.yieldsAll_conditions d " WHERE " s.filter b) fun b => ?_
    have hhaving := Clause.yieldsAll_conditions d " HAVING " s.having (Clause.terms " GROUP BY " s.groupBy b)
    exact Yields.finish (Yields.of_args (Clause.args_terms _ _ b) hhaving) fun b => by simp

end Select

namespace Insert

theorem args_writeValues (values : List Value) (b : BoundText) : (writeValues values b).args = b.args ++ values := by
  induction values generalizing b with
  | nil => simp [writeValues]
  | cons v rest ih =>
    cases rest with
    | nil => simp [writeValues]
    | cons w rest =>
      rw [writeValues, ih]
      · simp
      · simp

theorem yields_writeRows (width : Nat) (first : Bool) (rows : List (List Value)) (b : BoundText) :
    Yields b rows.flatten (rows.findSome? (rowRefusal? width)) (writeRows width first rows b) := by
  induction rows generalizing first b with
  | nil => exact .written (List.append_nil b.args).symm
  | cons row rest ih =>
    rw [writeRows, List.findSome?_cons, rowRefusal?]
    by_cases hwidth : row.length = width
    · rw [if_pos hwidth, if_neg (not_not.2 hwidth), List.flatten_cons]
      refine Yields.of_written ?_ (ih false _)
      cases first <;> simp [args_writeValues]
    · rw [if_neg hwidth, if_pos hwidth]
      exact .refused _

theorem yields_writeReturning (d : Dialect) (names : List String) (b : BoundText) :
    Yields b [] (returningRefusal? d names) (writeReturning d names b) := by
  unfold returningRefusal? writeReturning
  by_cases hnames : names = []
  · simpa [hnames] using Yields.written (List.append_nil b.args).symm
  · by_cases hd : d.supportsReturning = true
    · simpa [hnames, hd] using Yields.written (by simp)
    · simpa [hnames, hd] using Yields.refused _

theorem yields_write (d : Dialect) (s : Insert) (b : BoundText) :
    Yields b s.rows.flatten (s.refusal? d) (s.write d b) := by
  unfold refusal? write
  by_cases htable : s.table = ""
  · simpa [htable] using Yields.refused _
  by_cases hcolumns : s.columns = []
  · simpa [htable, hcolumns] using Yields.refused _
  by_cases hrows : s.rows = []
  · simpa [htable, hcolumns, hrows] using Yields.refused _
  simp only [htable, hcolumns, hrows, if_false, String.isEmpty_iff, List.isEmpty_iff]
  have hhead : (((((b.write "INSERT INTO ").write (d.quoteIdent s.table)).write " (").write
      (d.joinIdents s.columns ", ")).write ") VALUES ").args = b.args := by simp
  rw [← List.append_nil s.rows.flatten]
  exact Yields.bind (Yields.of_args hhead (yields_writeRows s.columns.length true s.rows _))
    (yields_writeReturning d s.returning)

end Insert

namespace Update

theorem yieldsAll_bind (v : Value) (b : BoundText) :
    YieldsAll b [(Assigned.value v).expression] (pure (b.bind v)) := by
  have hone : Marker.marks none "?".toList = [v].length := by
    simp [Marker.marks]
  have haccepted : (Assigned.value v).expression.refusal? = none := if_pos hone
  unfold YieldsAll
  rw [List.findSome?_singleton, haccepted]
  exact .written (BoundText.args_bind b v)

theorem yieldsAll_writeAssignments (d : Dialect) (first : Bool) (assignments : List (String × Assigned))
    (b : BoundText) :
    YieldsAll b (assignments.map (·.2.expression)) (writeAssignments d first assignments b) := by
  induction assignments generalizing first b with
  | nil => exact .nil b
  | cons a rest ih =>
    obtain ⟨column, assigned⟩ := a
    have hhead : (((if first then b else b.write ", ").write (d.quoteIdent column)).write " = ").args = b.args := by
      cases first <;> simp
    rw [List.map_cons, ← List.singleton_append]
    simp only [writeAssignments]
    cases assigned with
    | value v => exact YieldsAll.append (Yields.of_args hhead (yieldsAll_bind v _)) (ih false)
    | expr sql args => exact YieldsAll.append (Yields.of_args hhead (Marker.yieldsAll_write sql args _)) (ih false)

theorem yields_write (d : Dialect) (s : Update) (b : BoundText) :
    Yields b (s.expressions.flatMap (·.args)) s.refusal? (s.write d b) := by
  unfold refusal? write
  by_cases htable : s.table = ""
  · simpa [htable] using Yields.refused _
  by_cases hassignments : s.assignments = []
  · simpa [htable, hassignments] using Yields.refused _
  simp only [htable, hassignments, if_false, String.isEmpty_iff, List.isEmpty_iff, expressions]
  have hhead : (((b.write "UPDATE ").write (d.quoteIdent s.table)).write " SET ").args = b.args := by simp
  refine YieldsAll.append (Yields.of_args hhead (yieldsAll_writeAssignments d true s.assignments _)) fun b => ?_
  exact Yields.finish (Clause.yieldsAll_conditions d " WHERE " s.filter b) fun b => by simp

end Update

namespace Delete

theorem yields_write (d : Dialect) (s : Delete) (b : BoundText) :
    Yields b (s.expressions.flatMap (·.args)) s.refusal? (s.write d b) := by
  unfold refusal? write
  by_cases htable : s.table = ""
  · simpa [htable] using Yields.refused _
  · rw [if_neg htable, if_neg (by simpa using htable), expressions]
    have hhead : ((b.write "DELETE FROM ").write (d.quoteIdent s.table)).args = b.args := by simp
    exact Yields.finish (Yields.of_args hhead (Clause.yieldsAll_conditions d " WHERE " s.filter _)) fun b => by simp

end Delete

/-- A statement that reads or changes rows. -/
inductive Query where
  | select (s : Select)
  | insert (s : Insert)
  | update (s : Update)
  | delete (s : Delete)

namespace Query

def toSql (d : Dialect) : Query → Except Error Prepared
  | select s => SqlDialects.toSql d s
  | insert s => SqlDialects.toSql d s
  | update s => SqlDialects.toSql d s
  | delete s => SqlDialects.toSql d s

def toRawSql (d : Dialect) : Query → Except Error String
  | select s => SqlDialects.toRawSql d s
  | insert s => SqlDialects.toRawSql d s
  | update s => SqlDialects.toRawSql d s
  | delete s => SqlDialects.toRawSql d s

/-- Why a dialect has no text for a query. -/
def refusal? (d : Dialect) : Query → Option Error
  | select s => s.refusal?
  | insert s => s.refusal? d
  | update s => s.refusal?
  | delete s => s.refusal?

/-- The values of a query, in the order of its text. -/
def values : Query → List Value
  | select s => s.expressions.flatMap (·.args)
  | insert s => s.rows.flatten
  | update s => s.expressions.flatMap (·.args)
  | delete s => s.expressions.flatMap (·.args)

/-- Whether a query returns columns of the rows it inserts. -/
def Returns : Query → Prop
  | insert s => s.returning ≠ []
  | _ => False

theorem refusal?_congr {d d' : Dialect} {q : Query} (h : q.Returns → d ≠ .mysql ∧ d' ≠ .mysql) :
    q.refusal? d = q.refusal? d' := by
  cases q with
  | select s => rfl
  | insert s =>
    have hreturning : Insert.returningRefusal? d s.returning = Insert.returningRefusal? d' s.returning := by
      unfold Insert.returningRefusal?
      by_cases hnames : s.returning = []
      · simp [hnames]
      · obtain ⟨hd, hd'⟩ := h hnames
        cases d <;> cases d' <;> simp_all [Dialect.supportsReturning]
    simp only [refusal?, Insert.refusal?, hreturning]
  | update s => rfl
  | delete s => rfl

end Query

/-- The two forms of a query end in a refusal; or both exist, with these values. -/
def EndIn (refusal : Option Error) (vs : List Value) (form : Except Error Prepared) (raw : Except Error String) :
    Prop :=
  match refusal with
  | some e => form = .error e ∧ raw = .error e
  | none => (∃ sql, form = .ok ⟨sql, vs⟩) ∧ ∃ sql, raw = .ok sql

theorem Yields.endIn {α : Type} [Writable α] {d : Dialect} {a : α}
    (h : Yields .empty vs refusal (Writable.write d a .empty)) : EndIn refusal vs (toSql d a) (toRawSql d a) := by
  unfold toSql toRawSql
  generalize Writable.write d a .empty = r at h
  cases h with
  | refused e => exact ⟨rfl, rfl⟩
  | @written b hargs =>
    obtain rfl : b.args = vs := hargs
    exact ⟨⟨b.render d, rfl⟩, b.renderLiteral d, rfl⟩

theorem EndIn.args_eq {form form' : Except Error Prepared} {raw raw' : Except Error String}
    (h : EndIn refusal vs form raw) (h' : EndIn refusal vs form' raw') : form.map (·.args) = form'.map (·.args) := by
  cases refusal with
  | some e =>
    obtain ⟨rfl, _⟩ := h
    obtain ⟨rfl, _⟩ := h'
    rfl
  | none =>
    obtain ⟨⟨sql, rfl⟩, _⟩ := h
    obtain ⟨⟨sql', rfl⟩, _⟩ := h'
    rfl

namespace Query

theorem endIn_refusal (d : Dialect) (q : Query) : EndIn (q.refusal? d) q.values (q.toSql d) (q.toRawSql d) := by
  cases q with
  | select s => exact (s.yields_write d .empty).endIn
  | insert s => exact (s.yields_write d .empty).endIn
  | update s => exact (s.yields_write d .empty).endIn
  | delete s => exact (s.yields_write d .empty).endIn

/-- A query is refused for its reason, in both of its forms, or it has a text with its values. Two dialects agree on
the values or on the reason, unless one of them is MySQL and the query returns columns. -/
theorem refused_or_written (d : Dialect) (q : Query) :
    EndIn (q.refusal? d) q.values (q.toSql d) (q.toRawSql d) ∧
      ∀ d', (q.Returns → d ≠ .mysql ∧ d' ≠ .mysql) →
        (q.toSql d).map (·.args) = (q.toSql d').map (·.args) := by
  refine ⟨endIn_refusal d q, fun d' h => ?_⟩
  have hother := endIn_refusal d' q
  rw [← refusal?_congr h] at hother
  exact (endIn_refusal d q).args_eq hother

/-- An insert that returns a column has the same values on two dialects, and no text on the third. -/
theorem refused_or_written_of_returning :
    let q : Query := .insert { table := "t", columns := ["a"], rows := [[.bool true]], returning := ["id"] }
    (q.Returns → Dialect.postgres ≠ .mysql ∧ Dialect.sqlite ≠ .mysql) ∧
      (q.toSql .postgres).map (·.args) = (q.toSql .sqlite).map (·.args) ∧
      q.toSql .mysql = .error (.unsupportedFeature "RETURNING on mysql") := by
  intro q
  have hdialects : q.Returns → Dialect.postgres ≠ .mysql ∧ Dialect.sqlite ≠ .mysql := fun _ => by decide
  obtain ⟨hmysql, _⟩ := refused_or_written .mysql q
  exact ⟨hdialects, (refused_or_written .postgres q).2 .sqlite hdialects, hmysql.1⟩

/-- Too many values for an assignment whose first marker is quoted, and for the condition: the assignment counts. -/
example :
    let steps : List Update.Step := [.set "a" .null, .setExpr "b" "'?' || ?" [.null, .null],
      .filter .and (.expr "c" [.null])]
    (update (.ofSteps "t" steps)).toSql .sqlite = .error (.placeholderCount 1 2) := by
  rfl

end Query
end SqlDialects
