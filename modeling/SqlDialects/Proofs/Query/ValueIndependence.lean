import SqlDialects.Proofs.Query.Alike
import SqlDialects.Proofs.Query.Recipe

/-!
# The text of a query does not depend on its values

Two runs of one recipe build conditions and statements that are written alike. So they end in the same
error, or in the same text with the values of the same labels in the same order. The only values that are
looked at are those of equalities and differences, and only for being null.
-/

namespace SqlDialects

variable {ι : Type} {ρ σ : ι → Value} {R : Value → Value → Prop}

/-- The values that two runs give to one label. -/
def SameLabel (ρ σ : ι → Value) (v w : Value) : Prop :=
  ∃ i, ρ i = v ∧ σ i = w

/-- Both runs are null at the same labels of a list. -/
def NullsAgree (ρ σ : ι → Value) (labels : List ι) : Prop :=
  ∀ i ∈ labels, ρ i = .null ↔ σ i = .null

theorem NullsAgree.of_append {ls ms : List ι} (h : NullsAgree ρ σ (ls ++ ms)) :
    NullsAgree ρ σ ls ∧ NullsAgree ρ σ ms :=
  ⟨fun i hi => h i (List.mem_append_left ms hi), fun i hi => h i (List.mem_append_right ls hi)⟩

theorem NullsAgree.of_flatMap {κ : Type} {labels : κ → List ι} {ks : List κ} {k : κ}
    (h : NullsAgree ρ σ (ks.flatMap labels)) (hk : k ∈ ks) : NullsAgree ρ σ (labels k) :=
  fun i hi => h i (List.mem_flatMap.2 ⟨k, hk, hi⟩)

theorem sameLabel_map (labels : List ι) :
    List.Forall₂ (SameLabel ρ σ) (labels.map ρ) (labels.map σ) := by
  induction labels with
  | nil => exact .nil
  | cons i labels ih => exact .cons ⟨i, rfl, rfl⟩ ih

theorem exists_labels {vs ws : List Value} (h : List.Forall₂ (SameLabel ρ σ) vs ws) :
    ∃ labels : List ι, vs = labels.map ρ ∧ ws = labels.map σ := by
  induction h with
  | nil => exact ⟨[], rfl, rfl⟩
  | cons hv _ ih =>
    obtain ⟨i, rfl, rfl⟩ := hv
    obtain ⟨labels, rfl, rfl⟩ := ih
    exact ⟨i :: labels, rfl, rfl⟩

namespace Recipe

/-- A test against a value that is null in both runs is no test of the value. -/
theorem test_alike (t : Test) (name : String) (i : ι) (h : NullsAgree ρ σ (test t name i).nullLabels) :
    (t.condition name (ρ i)).WritesAlike (SameLabel ρ σ) (t.condition name (σ i)) := by
  have hi : List.Forall₂ (SameLabel ρ σ) [ρ i] [σ i] := sameLabel_map [i]
  cases t with
  | eq =>
    have hn : ρ i = .null ↔ σ i = .null := h i (by simp [nullLabels, Test.looksAtNull])
    by_cases hr : ρ i = .null
    · simp only [Test.condition, hr, hn.1 hr, Condition.eq]
      exact Condition.column_alike _ _ .nil
    · simp only [Test.condition, Condition.eq_of_ne_null name hr, Condition.eq_of_ne_null name (mt hn.2 hr)]
      exact Condition.column_alike _ _ hi
  | neq =>
    have hn : ρ i = .null ↔ σ i = .null := h i (by simp [nullLabels, Test.looksAtNull])
    by_cases hr : ρ i = .null
    · simp only [Test.condition, hr, hn.1 hr, Condition.neq]
      exact Condition.column_alike _ _ .nil
    · simp only [Test.condition, Condition.neq_of_ne_null name hr, Condition.neq_of_ne_null name (mt hn.2 hr)]
      exact Condition.column_alike _ _ hi
  | gt | gte | lt | lte | like | notLike => exact Condition.column_alike _ _ hi

mutual

theorem fill_alike (r : Recipe ι) (h : NullsAgree ρ σ r.nullLabels) :
    (r.fill ρ).WritesAlike (SameLabel ρ σ) (r.fill σ) :=
  match r with
  | expr sql labels => Condition.expr_alike sql (sameLabel_map labels)
  | column name tail labels => Condition.column_alike name tail (sameLabel_map labels)
  | isNull name => Condition.column_alike name _ .nil
  | isNotNull name => Condition.column_alike name _ .nil
  | test t name i => test_alike t name i h
  | inList name labels => Condition.inList_alike name (sameLabel_map labels)
  | notInList name labels => Condition.notInList_alike name (sameLabel_map labels)
  | group members => Condition.group_alike (fillMembers_alike members h)

theorem fillMembers_alike (members : List (Conjunction × Recipe ι)) (h : NullsAgree ρ σ (nullLabelsOf members)) :
    Condition.MembersAlike (SameLabel ρ σ) (fillMembers ρ members) (fillMembers σ members) :=
  match members with
  | [] => .nil
  | (_, r) :: rest => .cons ⟨rfl, fill_alike r h.of_append.1⟩ (fillMembers_alike rest h.of_append.2)

end

theorem append_alike {members members' : List (Conjunction × Condition)}
    (h : Condition.MembersAlike (SameLabel ρ σ) members members') (conjunction : Conjunction) (r : Recipe ι)
    (hn : NullsAgree ρ σ r.nullLabels) :
    Condition.MembersAlike (SameLabel ρ σ) (members ++ [(conjunction, r.fill ρ)])
      (members' ++ [(conjunction, r.fill σ)]) :=
  List.rel_append h (.cons ⟨rfl, r.fill_alike hn⟩ .nil)

end Recipe

theorem isEmpty_eq_of_forall₂ {α β : Type} {S : α → β → Prop} {as : List α} {bs : List β}
    (h : List.Forall₂ S as bs) : as.isEmpty = bs.isEmpty := by
  cases h <;> rfl

/-- A relation that single calls keep is kept by two runs of the same calls. -/
theorem foldl_related {α τ κ : Type} {Related : α → α → Prop} {step : α → τ → α} {f g : κ → τ} {Agree : κ → Prop}
    (hstep : ∀ s s' k, Related s s' → Agree k → Related (step s (f k)) (step s' (g k)))
    {calls : List κ} (hcalls : ∀ k ∈ calls, Agree k) {s s' : α} (h : Related s s') :
    Related ((calls.map f).foldl step s) ((calls.map g).foldl step s') := by
  induction calls generalizing s s' with
  | nil => exact h
  | cons k calls ih =>
    have hk := hstep s s' k h (hcalls k (by simp))
    exact ih (fun k hk => hcalls k (by simp [hk])) hk

/-- Equal parts, except for the values in the conditions. -/
structure Select.Alike (R : Value → Value → Prop) (s s' : Select) : Prop where
  distinct : s.distinct = s'.distinct
  columns : s.columns = s'.columns
  table : s.table = s'.table
  joins : List.Forall₂ (fun j j' => j.kind = j'.kind ∧ j.table = j'.table ∧ j.on.WritesAlike R j'.on) s.joins s'.joins
  filter : Condition.MembersAlike R s.filter s'.filter
  groupBy : s.groupBy = s'.groupBy
  having : Condition.MembersAlike R s.having s'.having
  orderBy : s.orderBy = s'.orderBy
  limit : s.limit = s'.limit
  offset : s.offset = s'.offset

namespace Select

theorem Alike.step {s s' : Select} (h : s.Alike (SameLabel ρ σ) s') (call : Call ι)
    (hn : NullsAgree ρ σ call.nullLabels) : (s.step (call.step ρ)).Alike (SameLabel ρ σ) (s'.step (call.step σ)) := by
  cases call with
  | columns names => exact { h with columns := congrArg (· ++ names) h.columns }
  | source table => exact { h with table := rfl }
  | distinct => exact { h with distinct := rfl }
  | join kind table r => exact { h with joins := List.rel_append h.joins (.cons ⟨rfl, rfl, r.fill_alike hn⟩ .nil) }
  | filter conjunction r => exact { h with filter := Recipe.append_alike h.filter conjunction r hn }
  | groupBy terms => exact { h with groupBy := congrArg (· ++ terms) h.groupBy }
  | having conjunction r => exact { h with having := Recipe.append_alike h.having conjunction r hn }
  | orderBy terms => exact { h with orderBy := congrArg (· ++ terms) h.orderBy }
  | orderByDesc terms => exact { h with orderBy := congrArg (· ++ terms.map (· ++ " DESC")) h.orderBy }
  | limit n => exact { h with limit := rfl }
  | offset n => exact { h with offset := rfl }

theorem ofSteps_alike {calls : List (Call ι)} (hn : NullsAgree ρ σ (calls.flatMap (·.nullLabels))) :
    (ofSteps (calls.map (·.step ρ))).Alike (SameLabel ρ σ) (ofSteps (calls.map (·.step σ))) :=
  foldl_related (fun _ _ call h hc => h.step call hc) (fun _ => hn.of_flatMap)
    ⟨rfl, rfl, rfl, .nil, .nil, rfl, .nil, rfl, rfl, rfl⟩

theorem writeJoins_alike (d : Dialect) {js js' : List Join}
    (h : List.Forall₂ (fun j j' => j.kind = j'.kind ∧ j.table = j'.table ∧ j.on.WritesAlike R j'.on) js js')
    {b b' : BoundText} (hb : b.Alike R b') : ResultsAlike R (writeJoins d js b) (writeJoins d js' b') := by
  induction h generalizing b b' with
  | nil => exact .ok hb
  | cons hj _ ih =>
    obtain ⟨hkind, htable, hon⟩ := hj
    simp only [writeJoins, hkind, htable]
    exact (hon d _ _ (((hb.write _).write _).write _)).bind fun _ _ hb => ih hb

theorem Alike.writeHead {s s' : Select} (h : s.Alike R s') (d : Dialect) {b b' : BoundText} (hb : b.Alike R b') :
    (s.writeHead d b).Alike R (s'.writeHead d b') := by
  unfold Select.writeHead
  rw [h.distinct, h.columns, h.table]
  exact (((((hb.write _).write _).ite (hb.write _)).write _).write _).write _

theorem Alike.write {s s' : Select} (h : s.Alike R s') (d : Dialect) {b b' : BoundText} (hb : b.Alike R b') :
    ResultsAlike R (s.write d b) (s'.write d b') := by
  unfold Select.write
  rw [h.table, h.groupBy, h.orderBy, h.limit, h.offset]
  split
  · exact .error _
  · refine (writeJoins_alike d h.joins (h.writeHead d hb)).bind fun _ _ hb => ?_
    refine (Clause.conditions_alike h.filter d _ hb).bind fun _ _ hb => ?_
    refine (Clause.conditions_alike h.having d _ (Clause.terms_alike _ _ hb)).bind fun _ _ hb => ?_
    exact .ok (Clause.number_alike _ _ (Clause.number_alike _ _ (Clause.terms_alike _ _ hb)))

end Select

/-- Equal parts, except for the values in the rows. -/
structure Insert.Alike (R : Value → Value → Prop) (s s' : Insert) : Prop where
  table : s.table = s'.table
  columns : s.columns = s'.columns
  rows : List.Forall₂ (List.Forall₂ R) s.rows s'.rows
  returning : s.returning = s'.returning

namespace Insert

theorem Alike.step {s s' : Insert} (h : s.Alike (SameLabel ρ σ) s') (call : Call ι) :
    (s.step (call.step ρ)).Alike (SameLabel ρ σ) (s'.step (call.step σ)) := by
  cases call with
  | into table => exact { h with table := rfl }
  | columns names => exact { h with columns := congrArg (· ++ names) h.columns }
  | row labels => exact { h with rows := List.rel_append h.rows (.cons (sameLabel_map labels) .nil) }
  | returning names => exact { h with returning := congrArg (· ++ names) h.returning }

theorem ofSteps_alike (calls : List (Call ι)) :
    (ofSteps (calls.map (·.step ρ))).Alike (SameLabel ρ σ) (ofSteps (calls.map (·.step σ))) :=
  foldl_related (fun _ _ call h _ => h.step call) (fun _ _ => trivial) ⟨rfl, rfl, .nil, rfl⟩

theorem writeValues_alike {vs vs' : List Value} (h : List.Forall₂ R vs vs') {b b' : BoundText}
    (hb : b.Alike R b') : (writeValues vs b).Alike R (writeValues vs' b') := by
  induction h generalizing b b' with
  | nil => exact hb
  | cons hv hvs ih =>
    cases hvs with
    | nil => exact hb.bind hv
    | cons hw hws => exact ih ((hb.bind hv).write _)

theorem writeRows_alike (width : Nat) (first : Bool) {rows rows' : List (List Value)}
    (h : List.Forall₂ (List.Forall₂ R) rows rows') {b b' : BoundText} (hb : b.Alike R b') :
    ResultsAlike R (writeRows width first rows b) (writeRows width first rows' b') := by
  induction h generalizing first b b' with
  | nil => exact .ok hb
  | cons hrow _ ih =>
    simp only [writeRows, hrow.length_eq]
    split
    · exact .error _
    · have hsep := hb.ite (p := first) (hb.write ", ")
      exact ih false ((writeValues_alike hrow (hsep.write "(")).write ")")

theorem writeReturning_alike (d : Dialect) (names : List String) {b b' : BoundText} (hb : b.Alike R b') :
    ResultsAlike R (writeReturning d names b) (writeReturning d names b') := by
  unfold writeReturning
  split
  · exact .ok hb
  split
  · exact .ok ((hb.write _).write _)
  · exact .error _

theorem Alike.write {s s' : Insert} (h : s.Alike R s') (d : Dialect) {b b' : BoundText} (hb : b.Alike R b') :
    ResultsAlike R (s.write d b) (s'.write d b') := by
  unfold Insert.write
  rw [h.table, h.columns, h.returning, isEmpty_eq_of_forall₂ h.rows]
  split
  · exact .error _
  split
  · exact .error _
  split
  · exact .error _
  · refine (writeRows_alike _ _ h.rows (((((hb.write _).write _).write _).write _).write _)).bind fun _ _ hb => ?_
    exact writeReturning_alike d _ hb

end Insert

/-- Related values, or equal expressions of related values. -/
inductive Assigned.Alike (R : Value → Value → Prop) : Assigned → Assigned → Prop where
  | value {v v' : Value} (h : R v v') : Alike R (.value v) (.value v')
  | expr (sql : String) {vs vs' : List Value} (h : List.Forall₂ R vs vs') : Alike R (.expr sql vs) (.expr sql vs')

/-- Equal parts, except for the values in the assignments and in the conditions. -/
structure Update.Alike (R : Value → Value → Prop) (s s' : Update) : Prop where
  table : s.table = s'.table
  assignments : List.Forall₂ (fun a a' => a.1 = a'.1 ∧ a.2.Alike R a'.2) s.assignments s'.assignments
  filter : Condition.MembersAlike R s.filter s'.filter
  orderBy : s.orderBy = s'.orderBy
  limit : s.limit = s'.limit

namespace Update

theorem Alike.step {s s' : Update} (h : s.Alike (SameLabel ρ σ) s') (call : Call ι)
    (hn : NullsAgree ρ σ call.nullLabels) : (s.step (call.step ρ)).Alike (SameLabel ρ σ) (s'.step (call.step σ)) := by
  cases call with
  | set column i =>
    exact { h with assignments := List.rel_append h.assignments (.cons ⟨rfl, .value ⟨i, rfl, rfl⟩⟩ .nil) }
  | setExpr column sql labels =>
    have hl : List.Forall₂ (SameLabel ρ σ) (labels.map ρ) (labels.map σ) := sameLabel_map labels
    exact { h with assignments := List.rel_append h.assignments (.cons ⟨rfl, .expr sql hl⟩ .nil) }
  | filter conjunction r => exact { h with filter := Recipe.append_alike h.filter conjunction r hn }
  | orderBy terms => exact { h with orderBy := congrArg (· ++ terms) h.orderBy }
  | limit n => exact { h with limit := rfl }

theorem ofSteps_alike (table : String) {calls : List (Call ι)}
    (hn : NullsAgree ρ σ (calls.flatMap (·.nullLabels))) :
    (ofSteps table (calls.map (·.step ρ))).Alike (SameLabel ρ σ) (ofSteps table (calls.map (·.step σ))) :=
  foldl_related (fun _ _ call h hc => h.step call hc) (fun _ => hn.of_flatMap) ⟨rfl, .nil, .nil, rfl, rfl⟩

theorem writeAssignments_alike (d : Dialect) (first : Bool) {as as' : List (String × Assigned)}
    (h : List.Forall₂ (fun a a' => a.1 = a'.1 ∧ a.2.Alike R a'.2) as as') {b b' : BoundText} (hb : b.Alike R b') :
    ResultsAlike R (writeAssignments d first as b) (writeAssignments d first as' b') := by
  induction h generalizing first b b' with
  | nil => exact .ok hb
  | @cons a a' as as' ha _ ih =>
    obtain ⟨column, assigned⟩ := a
    obtain ⟨column', assigned'⟩ := a'
    obtain ⟨rfl, ha⟩ := ha
    have hsep := hb.ite (p := first) (hb.write ", ")
    have hname := (hsep.write (d.quoteIdent column)).write " = "
    simp only [writeAssignments]
    cases ha with
    | value hv => exact ih false (hname.bind hv)
    | expr sql hvs => exact (Marker.write_alike sql hvs hname).bind fun _ _ hb => ih false hb

theorem Alike.write {s s' : Update} (h : s.Alike R s') (d : Dialect) {b b' : BoundText} (hb : b.Alike R b') :
    ResultsAlike R (s.write d b) (s'.write d b') := by
  unfold Update.write
  rw [h.table, isEmpty_eq_of_forall₂ h.assignments, h.orderBy, h.limit]
  split
  · exact .error _
  split
  · exact .error _
  · refine (writeAssignments_alike d true h.assignments (((hb.write _).write _).write _)).bind fun _ _ hb => ?_
    refine (Clause.conditions_alike h.filter d _ hb).bind fun _ _ hb => ?_
    exact .ok (Clause.number_alike _ _ (Clause.terms_alike _ _ hb))

end Update

/-- Equal parts, except for the values in the conditions. -/
structure Delete.Alike (R : Value → Value → Prop) (s s' : Delete) : Prop where
  table : s.table = s'.table
  filter : Condition.MembersAlike R s.filter s'.filter
  orderBy : s.orderBy = s'.orderBy
  limit : s.limit = s'.limit

namespace Delete

theorem Alike.step {s s' : Delete} (h : s.Alike (SameLabel ρ σ) s') (call : Call ι)
    (hn : NullsAgree ρ σ call.nullLabels) : (s.step (call.step ρ)).Alike (SameLabel ρ σ) (s'.step (call.step σ)) := by
  cases call with
  | filter conjunction r => exact { h with filter := Recipe.append_alike h.filter conjunction r hn }
  | orderBy terms => exact { h with orderBy := congrArg (· ++ terms) h.orderBy }
  | limit n => exact { h with limit := rfl }

theorem ofSteps_alike (table : String) {calls : List (Call ι)}
    (hn : NullsAgree ρ σ (calls.flatMap (·.nullLabels))) :
    (ofSteps table (calls.map (·.step ρ))).Alike (SameLabel ρ σ) (ofSteps table (calls.map (·.step σ))) :=
  foldl_related (fun _ _ call h hc => h.step call hc) (fun _ => hn.of_flatMap) ⟨rfl, .nil, rfl, rfl⟩

theorem Alike.write {s s' : Delete} (h : s.Alike R s') (d : Dialect) {b b' : BoundText} (hb : b.Alike R b') :
    ResultsAlike R (s.write d b) (s'.write d b') := by
  unfold Delete.write
  rw [h.table, h.orderBy, h.limit]
  split
  · exact .error _
  · refine (Clause.conditions_alike h.filter d _ ((hb.write _).write _)).bind fun _ _ hb => ?_
    exact .ok (Clause.number_alike _ _ (Clause.terms_alike _ _ hb))

end Delete

theorem toSql_alike {α : Type} [Writable α] {d : Dialect} {a a' : α}
    (h : ResultsAlike R (Writable.write d a .empty) (Writable.write d a' .empty)) :
    (∃ e, toSql d a = .error e ∧ toSql d a' = .error e) ∨
      ∃ sql vs ws, toSql d a = .ok ⟨sql, vs⟩ ∧ toSql d a' = .ok ⟨sql, ws⟩ ∧ List.Forall₂ R vs ws := by
  unfold toSql
  generalize Writable.write d a .empty = x at h
  generalize Writable.write d a' .empty = y at h
  cases h with
  | error e => exact .inl ⟨e, rfl, rfl⟩
  | @ok b b' h =>
    refine .inr ⟨b.render d, b.args, b'.args, rfl, ?_, h.args⟩
    rw [h.render d]
    rfl

/-- Two runs of one recipe that are null at the same compared labels end in the same error, or in the same text
with their own values of the same labels at the same positions. -/
theorem QueryRecipe.run_eq_of_nullsAgree (d : Dialect) (q : QueryRecipe ι) (ρ σ : ι → Value)
    (hn : ∀ i ∈ q.nullLabels, ρ i = .null ↔ σ i = .null) :
    (∃ e, q.run d ρ = .error e ∧ q.run d σ = .error e) ∨
      ∃ (sql : String) (labels : List ι),
        q.run d ρ = .ok ⟨sql, labels.map ρ⟩ ∧ q.run d σ = .ok ⟨sql, labels.map σ⟩ := by
  have hempty : BoundText.empty.Alike (SameLabel ρ σ) .empty := .nil
  have h : (∃ e, q.run d ρ = .error e ∧ q.run d σ = .error e) ∨
      ∃ sql vs ws, q.run d ρ = .ok ⟨sql, vs⟩ ∧ q.run d σ = .ok ⟨sql, ws⟩ ∧ List.Forall₂ (SameLabel ρ σ) vs ws := by
    cases q with
    | condition r => exact toSql_alike (r.fill_alike hn d _ _ hempty)
    | select calls => exact toSql_alike ((Select.ofSteps_alike hn).write d hempty)
    | insert calls => exact toSql_alike ((Insert.ofSteps_alike calls).write d hempty)
    | update table calls => exact toSql_alike ((Update.ofSteps_alike table hn).write d hempty)
    | delete table calls => exact toSql_alike ((Delete.ofSteps_alike table hn).write d hempty)
  rcases h with he | ⟨sql, vs, ws, hv, hw, hvw⟩
  · exact .inl he
  · obtain ⟨labels, rfl, rfl⟩ := exists_labels hvw
    exact .inr ⟨sql, labels, hv, hw⟩

/-- Two updates with different names, numbers and lists, whose last compared value is null in both. -/
theorem QueryRecipe.run_eq_of_two_updates :
    let q : QueryRecipe Nat := .update "users" [.set "name" 0, .setExpr "visits" "visits + ?" [1],
      .filter .and (.test .eq "id" 2), .filter .or (.group [(.and, .inList "k" [3, 4]), (.or, .test .neq "gone" 5)])]
    let ρ : Nat → Value := fun i => if i = 5 then .null else .text "a"
    let σ : Nat → Value := fun i => if i = 5 then .null else .bool true
    (∀ i ∈ q.nullLabels, ρ i = .null ↔ σ i = .null) ∧
      ((∃ e, q.run .postgres ρ = .error e ∧ q.run .postgres σ = .error e) ∨
        ∃ (sql : String) (labels : List Nat),
          q.run .postgres ρ = .ok ⟨sql, labels.map ρ⟩ ∧ q.run .postgres σ = .ok ⟨sql, labels.map σ⟩) := by
  intro q ρ σ
  have hn : ∀ i ∈ q.nullLabels, ρ i = .null ↔ σ i = .null := by
    intro i _
    by_cases hi : i = 5 <;> simp [ρ, σ, hi]
  exact ⟨hn, q.run_eq_of_nullsAgree .postgres ρ σ hn⟩

end SqlDialects
