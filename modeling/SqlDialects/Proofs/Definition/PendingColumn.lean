import SqlDialects.Definition.Alteration
import SqlDialects.Proofs.Schema.Mutation

/-!
# Which column a pending command adds

A command to add a column holds a name and takes the first column of that name when it is written. A spot follows
one column through a run: the column keeps its name, and no column of that name comes to stand before it. So the
command finds its own column unless that was removed, or another column of the name was there when it was added.
-/

namespace SqlDialects.Table

/-- A column among the columns of a table. -/
structure Spot where
  before : List TableColumn
  column : TableColumn
  after : List TableColumn

namespace Spot

def columns (s : Spot) : List TableColumn :=
  s.before ++ s.column :: s.after

/-- No column before this one has its name. -/
def IsFirst (s : Spot) : Prop :=
  s.column.name ∉ s.before.map (·.name)

/-- The columns that stay when a name is removed. -/
def kept (name : String) (columns : List TableColumn) : List TableColumn :=
  columns.filter fun c => !Text.sameIgnoringCase c.name name

/-- The columns after a modification of the first one of a name. -/
def modified (name : String) (options : List ColumnOption) (columns : List TableColumn) : List TableColumn :=
  updateColumn.go name (·.apply options) columns

/-- Where a column is after a mutation, unless that removes it. -/
def step (s : Spot) : Mutation → Option Spot
  | .add c => some { s with after := s.after ++ [c] }
  | .remove name =>
    if Text.sameIgnoringCase s.column.name name then none
    else some { s with before := kept name s.before, after := kept name s.after }
  | .modify name options =>
    if s.before.any (·.name == name) then some { s with before := modified name options s.before }
    else if s.column.name == name then some { s with column := s.column.apply options }
    else some { s with after := modified name options s.after }
  | _ => some s

/-- Where a column is after some mutations, unless one of them removes it. -/
def run (s : Spot) : List Mutation → Option Spot
  | [] => some s
  | m :: ms => (s.step m).bind (·.run ms)

end Spot
end SqlDialects.Table

namespace SqlDialects

theorem Column.name_set (c : Column) (o : ColumnOption) : (c.set o).name = c.name := by
  cases o <;> rfl

@[simp] theorem Column.name_apply (c : Column) (options : List ColumnOption) : (c.apply options).name = c.name := by
  induction options generalizing c with
  | nil => rfl
  | cons o os ih => rw [Column.apply_cons, ih, Column.name_set]

@[simp] theorem TableColumn.name_apply (c : TableColumn) (options : List ColumnOption) :
    (c.apply options).name = c.name :=
  Column.name_apply c.toColumn options

namespace Table

theorem column?_modify (t : Table) (name : String) (options : List ColumnOption) :
    (t.modify name options).column? name = (t.column? name).map (·.apply options) := by
  have hcolumns : (t.modify name options).columns = updateColumn.go name (·.apply options) t.columns := rfl
  simp only [column?, hcolumns]
  induction t.columns with
  | nil => rfl
  | cons c rest ih =>
    cases hname : c.name == name with
    | true => simp [updateColumn.go, hname]
    | false => simp [updateColumn.go, hname, ih]

namespace Spot

variable {name : String} {options : List ColumnOption} {s s' : Spot} {m : Mutation} {ms : List Mutation}

theorem modified_append (xs ys : List TableColumn) : modified name options (xs ++ ys) =
    if xs.any (·.name == name) then modified name options xs ++ ys else xs ++ modified name options ys := by
  induction xs with
  | nil => rfl
  | cons x xs ih =>
    unfold modified at ih ⊢
    cases hx : x.name == name with
    | true => simp [updateColumn.go, hx]
    | false =>
      cases hany : xs.any (·.name == name) <;> rw [hany] at ih <;> simp [updateColumn.go, hx, hany, ih]

theorem map_name_modified (xs : List TableColumn) : (modified name options xs).map (·.name) = xs.map (·.name) := by
  induction xs with
  | nil => rfl
  | cons x xs ih =>
    unfold modified at ih ⊢
    cases hx : x.name == name with
    | true => simp [updateColumn.go, hx]
    | false => simp [updateColumn.go, hx, ih]

theorem mem_kept {x : TableColumn} {xs : List TableColumn} :
    x ∈ kept name xs ↔ x ∈ xs ∧ Text.sameIgnoringCase x.name name = false := by
  simp [kept]

theorem name_mem_kept {a : String} (ha : Text.sameIgnoringCase a name = false) (xs : List TableColumn) :
    a ∈ (kept name xs).map (·.name) ↔ a ∈ xs.map (·.name) := by
  simp only [List.mem_map, mem_kept]
  constructor
  · rintro ⟨x, ⟨hx, _⟩, rfl⟩
    exact ⟨x, hx, rfl⟩
  · rintro ⟨x, hx, rfl⟩
    exact ⟨x, ⟨hx, ha⟩, rfl⟩

theorem step_remove_eq_some_iff : s.step (.remove name) = some s' ↔
    Text.sameIgnoringCase s.column.name name = false ∧
      s' = { s with before := kept name s.before, after := kept name s.after } := by
  cases h : Text.sameIgnoringCase s.column.name name <;> simp [step, h, eq_comm]

/-- The three places where a modification can act. -/
theorem step_modify_cases (h : s.step (.modify name options) = some s') :
    (s.before.any (·.name == name) = true ∧ s' = { s with before := modified name options s.before }) ∨
      (s.before.any (·.name == name) = false ∧ s.column.name = name ∧
        s' = { s with column := s.column.apply options }) ∨
      (s.before.any (·.name == name) = false ∧ s.column.name ≠ name ∧
        s' = { s with after := modified name options s.after }) := by
  simp only [step] at h
  split at h
  · next hb => exact .inl ⟨hb, (Option.some.inj h).symm⟩
  · next hb =>
    have hb := Bool.eq_false_iff.2 hb
    split at h
    · next hc => exact .inr (.inl ⟨hb, beq_iff_eq.1 hc, (Option.some.inj h).symm⟩)
    · next hc => exact .inr (.inr ⟨hb, fun hn => hc (beq_iff_eq.2 hn), (Option.some.inj h).symm⟩)

theorem name_step (h : s.step m = some s') : s'.column.name = s.column.name := by
  cases m with
  | remove name => rw [(step_remove_eq_some_iff.1 h).2]
  | modify name options =>
    rcases step_modify_cases h with ⟨_, rfl⟩ | ⟨_, _, rfl⟩ | ⟨_, _, rfl⟩
    · rfl
    · exact s.column.name_apply options
    · rfl
  | _ => cases h; rfl

theorem isFirst_step (h : s.step m = some s') : s'.IsFirst ↔ s.IsFirst := by
  have hname := name_step h
  unfold IsFirst
  rw [hname]
  cases m with
  | remove name =>
    -- A removal that took a column of this name would have taken the followed one too.
    obtain ⟨hc, rfl⟩ := step_remove_eq_some_iff.1 h
    exact not_congr (name_mem_kept hc s.before)
  | modify name options =>
    rcases step_modify_cases h with ⟨_, rfl⟩ | ⟨_, _, rfl⟩ | ⟨_, _, rfl⟩
    · rw [map_name_modified]
    · rfl
    · rfl
  | _ => cases h; rfl

/-- The table changes as its spot does. -/
theorem columns_step {t : Table} (ht : t.columns = s.columns) (h : s.step m = some s') :
    (t.step m).columns = s'.columns := by
  unfold columns at ht ⊢
  cases m with
  | add c =>
    cases h
    simp [Table.step, ht]
  | remove name =>
    obtain ⟨hc, rfl⟩ := step_remove_eq_some_iff.1 h
    simp [Table.step, removeColumn, ht, kept, hc]
  | modify name options =>
    have hmod : (t.step (.modify name options)).columns = modified name options t.columns := rfl
    rw [hmod, ht, modified_append]
    rcases step_modify_cases h with ⟨hb, rfl⟩ | ⟨hb, hc, rfl⟩ | ⟨hb, hc, rfl⟩
    · simp [hb]
    · simp [hb, hc, modified, updateColumn.go]
    · simp [hb, hc, modified, updateColumn.go]
  | _ => cases h; exact ht

theorem run_cons_eq_some_iff : s.run (m :: ms) = some s' ↔ ∃ s'', s.step m = some s'' ∧ s''.run ms = some s' :=
  Option.bind_eq_some_iff

theorem name_run (h : s.run ms = some s') : s'.column.name = s.column.name := by
  induction ms generalizing s with
  | nil => cases h; rfl
  | cons m ms ih =>
    obtain ⟨s'', hm, hms⟩ := run_cons_eq_some_iff.1 h
    rw [ih hms, name_step hm]

theorem isFirst_run (h : s.run ms = some s') : s'.IsFirst ↔ s.IsFirst := by
  induction ms generalizing s with
  | nil => cases h; rfl
  | cons m ms ih =>
    obtain ⟨s'', hm, hms⟩ := run_cons_eq_some_iff.1 h
    rw [ih hms, isFirst_step hm]

theorem columns_run {t : Table} (ht : t.columns = s.columns) (h : s.run ms = some s') :
    (t.run ms).columns = s'.columns := by
  induction ms generalizing s t with
  | nil => cases h; exact ht
  | cons m ms ih =>
    obtain ⟨s'', hm, hms⟩ := run_cons_eq_some_iff.1 h
    exact ih (columns_step ht hm) hms

/-- Some mutation removes the columns of a name. -/
def Removes (ms : List Mutation) (a : String) : Prop :=
  ∃ name, Mutation.remove name ∈ ms ∧ Text.sameIgnoringCase a name = true

theorem step_eq_none_iff : s.step m = none ↔ Removes [m] s.column.name := by
  cases m with
  | remove name => simp [step, Removes]
  | modify name options =>
    simp only [step, Removes]
    split
    · simp
    · split <;> simp
  | _ => simp [step, Removes]

theorem run_eq_none_iff : s.run ms = none ↔ Removes ms s.column.name := by
  induction ms generalizing s with
  | nil => simp [run, Removes]
  | cons m ms ih =>
    have hsplit : Removes (m :: ms) s.column.name ↔ Removes [m] s.column.name ∨ Removes ms s.column.name := by
      simp [Removes, or_and_right, exists_or]
    rw [hsplit, ← step_eq_none_iff]
    cases hm : s.step m with
    | none => simp [run, hm]
    | some s' => simp [run, hm, ih, name_step hm]

end Spot

variable {d : Dialect} {t : Table} {name : String} {c : TableColumn} {s : Spot}

theorem addColumn_of_column? (h : t.column? name = some c) : t.addColumn d name = t.additionOf d c := by
  rw [addColumn, findColumn_eq_ok_iff.2 h]
  rfl

theorem addColumn_eq_error (h : t.column? name = none) :
    t.addColumn d name = .error (.notFound ("column '" ++ name ++ "' in table '" ++ t.name ++ "'")) := by
  rw [addColumn, findColumn_eq_error h]
  rfl

theorem column?_of_isFirst (ht : t.columns = s.columns) (h : s.IsFirst) :
    t.column? s.column.name = some s.column := by
  have hbefore : s.before.find? (fun c => c.name == s.column.name) = none := by
    simpa [Spot.IsFirst] using h
  rw [column?, ht, Spot.columns, List.find?_append, hbefore]
  simp

theorem column?_of_not_isFirst (ht : t.columns = s.columns) (h : ¬ s.IsFirst) :
    ∃ e ∈ s.before, e.name = s.column.name ∧ t.column? s.column.name = some e := by
  cases hbefore : s.before.find? (fun c => c.name == s.column.name) with
  | none => exact absurd (by simpa [Spot.IsFirst] using hbefore) h
  | some e =>
    have hname : (e.name == s.column.name) = true :=
      List.find?_some (p := fun x : TableColumn => x.name == s.column.name) hbefore
    refine ⟨e, List.mem_of_find?_eq_some hbefore, beq_iff_eq.1 hname, ?_⟩
    rw [column?, ht, Spot.columns, List.find?_append, hbefore]
    rfl

/-- A column that was just added and the ones before it. -/
def Spot.last (t : Table) (c : TableColumn) : Spot :=
  ⟨t.columns, c, []⟩

/-- What is known of an added column that is not removed. -/
theorem followed_eq_some (t : Table) (c : TableColumn) {ms : List Mutation} (h : ¬ Spot.Removes ms c.name) :
    ∃ s, (Spot.last t c).run ms = some s ∧ ((t.step (.add c)).run ms).columns = s.columns ∧
      s.column.name = c.name ∧ (s.IsFirst ↔ c.name ∉ t.columns.map (·.name)) := by
  cases hs : (Spot.last t c).run ms with
  | none => exact absurd (Spot.run_eq_none_iff.1 hs) h
  | some s =>
    have hcolumns : (t.step (.add c)).columns = (Spot.last t c).columns := t.columns_pushColumn c
    exact ⟨s, rfl, Spot.columns_run hcolumns hs, Spot.name_run hs, Spot.isFirst_run hs⟩

/-- The command that adding a column appends stays pending at its place. It adds that very column, as it is at
the end, just if the name was free and is not removed later. If the name was taken, the column that has it first
is added again; if the name is removed, the command stays and finds another column or none. -/
theorem addColumn_outcome (t₀ : Table) (hl : t₀.added = false) (earlier later : List Mutation) (c : TableColumn) :
    let t₁ := t₀.run earlier
    let t := t₀.run (earlier ++ .add c :: later)
    let outcome (d : Dialect) := (Command.addColumn c.name).statements d t.withoutCommands
    let followed := (Spot.last t₁ c).run later
    let names (t : Table) := t.columns.map (·.name)
    t.commands[t₁.commands.length]? = some (.addColumn c.name) ∧
      ((∃ s, followed = some s ∧ t.columns = s.columns ∧ s.IsFirst ∧
          ∀ d, outcome d = t.withoutCommands.additionOf d s.column) ↔
        c.name ∉ names t₁ ∧ ¬ Spot.Removes later c.name) ∧
      (c.name ∈ names t₁ → ¬ Spot.Removes later c.name → ∃ s, followed = some s ∧ t.columns = s.columns ∧
        ∃ e ∈ s.before, e.name = c.name ∧ ∀ d, outcome d = t.withoutCommands.additionOf d e) ∧
      (Spot.Removes later c.name → followed = none ∧
        ((∃ e ∈ t.columns, e.name = c.name ∧ ∀ d, outcome d = t.withoutCommands.additionOf d e) ∨
          c.name ∉ names t ∧ ∀ d, outcome d =
            .error (.notFound ("column '" ++ c.name ++ "' in table '" ++ t.name ++ "'")))) := by
  intro t₁ t outcome followed names
  have hrun : t = (t₁.step (.add c)).run later := t₀.run_append earlier (.add c :: later)
  have hadded : t₁.added = false := (t₀.sameTable_run earlier).added.trans hl
  have hfound {e : TableColumn} (h : t.column? c.name = some e) (d : Dialect) :
      outcome d = t.withoutCommands.additionOf d e := addColumn_of_column? (t := t.withoutCommands) h
  refine ⟨?_, ⟨?_, ?_⟩, ?_, ?_⟩
  · rw [hrun, commands_run, commands_step]
    simp [Mutation.command?, hadded]
  · rintro ⟨s, hs, _, hfirst, _⟩
    refine ⟨(Spot.isFirst_run hs).1 hfirst, fun h => ?_⟩
    exact Option.some_ne_none s (hs.symm.trans (Spot.run_eq_none_iff.2 h))
  · rintro ⟨hfree, hkept⟩
    obtain ⟨s, hs, hcolumns, hname, hfirst⟩ := followed_eq_some t₁ c hkept
    rw [← hrun] at hcolumns
    have hcolumn := column?_of_isFirst hcolumns (hfirst.2 hfree)
    exact ⟨s, hs, hcolumns, hfirst.2 hfree, hfound (hname ▸ hcolumn)⟩
  · intro htaken hkept
    obtain ⟨s, hs, hcolumns, hname, hfirst⟩ := followed_eq_some t₁ c hkept
    rw [← hrun] at hcolumns
    obtain ⟨e, he, hename, hcolumn⟩ := column?_of_not_isFirst hcolumns fun h => hfirst.1 h htaken
    exact ⟨s, hs, hcolumns, e, he, hename.trans hname, hfound (hname ▸ hcolumn)⟩
  · intro hremoved
    refine ⟨Spot.run_eq_none_iff.2 hremoved, ?_⟩
    cases h : t.column? c.name with
    | none => exact .inr ⟨column?_eq_none_iff.1 h, fun d => addColumn_eq_error (t := t.withoutCommands) h⟩
    | some e =>
      exact .inl ⟨e, List.mem_of_find?_eq_some h, name_of_column? h, hfound h⟩

/-- A column of another type is added under a name that was dropped: the old column is added again. -/
theorem addColumn_outcome_of_dropped :
    let old : TableColumn := .loaded { name := "a", dataType := .int, added := false }
    let new : TableColumn := .ofColumn { name := "a", dataType := .text }
    let t₀ := { Table.found "users" with columns := [old] }
    let t := t₀.run [.dropColumns ["a"], .add new]
    t₀.added = false ∧ t.commands[1]? = some (.addColumn "a") ∧ t.columns = [old, new] ∧
      ∀ d, (Command.addColumn "a").statements d t.withoutCommands = t.withoutCommands.additionOf d old := by
  intro old new t₀ t
  obtain ⟨hpending, _, htaken, _⟩ := addColumn_outcome t₀ rfl [.dropColumns ["a"]] [] new
  obtain ⟨s, hs, hcolumns, e, he, _, houtcome⟩ := htaken (by decide) (by simp [Spot.Removes])
  cases hs
  cases List.mem_singleton.1 he
  exact ⟨rfl, hpending, hcolumns, houtcome⟩

end Table
end SqlDialects
