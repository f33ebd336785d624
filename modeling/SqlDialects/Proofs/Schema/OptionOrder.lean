import SqlDialects.Proofs.Definition.PendingColumn
import SqlDialects.Proofs.Schema.Attribute

/-!
# The order of options

An option writes one attribute or two, whatever the column is. So of the order of options only what they say of the same
attribute counts: the last option that touches an attribute sets it. A modification does this to one column of a table.
-/

namespace SqlDialects

namespace ColumnOption

/-- What an option writes. -/
def writes : ColumnOption → List Assignment
  | rename name => [⟨.rename, some name⟩]
  | after column => [⟨.after, some column⟩]
  | autoIncrement => [⟨.autoIncrement, true⟩]
  | notAutoIncrement => [⟨.autoIncrement, false⟩]
  | allowedValues values => [⟨.allowedValues, values⟩]
  | charset name => [⟨.charset, some name⟩]
  | comment text => [⟨.comment, some text⟩]
  | collation name => [⟨.collation, some name⟩]
  | default value => [⟨.default, some value⟩]
  | first => [⟨.first, true⟩]
  | generatedAs options always => [⟨.generatedAs, some options⟩, ⟨.always, always⟩]
  | nullable b => [⟨.nullable, b⟩]
  | primaryKey => [⟨.primaryKey, true⟩]
  | storedAs sql => [⟨.storedAs, some sql⟩]
  | dataType t => [⟨.dataType, t⟩]
  | unsigned => [⟨.unsigned, true⟩]
  | useCurrent => [⟨.useCurrent, true⟩]
  | virtualAs sql => [⟨.virtualAs, some sql⟩]
  | length n => [⟨.length, n⟩]
  | precision n => [⟨.precision, n⟩]
  | scale n => [⟨.scale, n⟩]
  | size m n => [⟨.precision, m⟩, ⟨.scale, n⟩]
  | notNull => [⟨.nullable, false⟩]
  | allowNull => [⟨.nullable, true⟩]
  | projection text => [⟨.projection, some text⟩]
  | srid n => [⟨.srid, n⟩]

/-- Whether an option writes an attribute. -/
abbrev Touches (o : ColumnOption) (a : Attribute) : Prop :=
  a ∈ o.writes.map (·.key)

theorem nodup_writes (o : ColumnOption) : (o.writes.map (·.key)).Nodup := by
  cases o <;> simp [writes]

end ColumnOption

namespace Column

variable {c c' : Column} {o : ColumnOption} {os ps : List ColumnOption} {a : Attribute} {v : a.Value}

/-- After options an attribute has the value of the last one that touches it, or else the value from before. -/
inductive IsSetByLast (c : Column) (a : Attribute) : List ColumnOption → a.Value → Prop
  | untouched {os : List ColumnOption} (h : ∀ o ∈ os, ¬ o.Touches a) : IsSetByLast c a os (c.get a)
  | last (before : List ColumnOption) {o : ColumnOption} {after : List ColumnOption} {v : a.Value}
    (hwrites : ⟨a, v⟩ ∈ o.writes) (h : ∀ p ∈ after, ¬ p.Touches a) : IsSetByLast c a (before ++ o :: after) v

theorem set_eq_putAll (c : Column) (o : ColumnOption) : c.set o = c.putAll o.writes := by
  cases o <;> rfl

theorem get_set_of_mem (c : Column) (h : ⟨a, v⟩ ∈ o.writes) : (c.set o).get a = v := by
  rw [set_eq_putAll]
  exact get_putAll_of_nodup c o.nodup_writes h

theorem get_set_of_not_touches (c : Column) (h : ¬ o.Touches a) : (c.set o).get a = c.get a := by
  rw [set_eq_putAll, get_putAll_of_notMem c h]

/-- Options are what they write, in order. -/
theorem apply_eq_putAll (c : Column) (os : List ColumnOption) :
    c.apply os = c.putAll (os.flatMap ColumnOption.writes) := by
  induction os generalizing c with
  | nil => rfl
  | cons o os ih => rw [apply_cons, ih, set_eq_putAll, List.flatMap_cons, putAll_append]

theorem get_apply_congr (h : c.get a = c'.get a) (os : List ColumnOption) :
    (c.apply os).get a = (c'.apply os).get a := by
  rw [apply_eq_putAll, apply_eq_putAll]
  exact get_putAll_congr h _

theorem get_apply_of_not_touches (c : Column) (h : ∀ o ∈ os, ¬ o.Touches a) : (c.apply os).get a = c.get a := by
  rw [apply_eq_putAll]
  refine get_putAll_of_notMem c ?_
  rw [List.map_flatMap, List.mem_flatMap]
  rintro ⟨o, ho, hmem⟩
  exact h o ho hmem

/-- Options that do not touch an attribute count for nothing in it. -/
theorem get_apply_filter (c : Column) (os : List ColumnOption) (a : Attribute) :
    (c.apply (os.filter (·.Touches a))).get a = (c.apply os).get a := by
  induction os generalizing c with
  | nil => rfl
  | cons o os ih =>
    by_cases ho : o.Touches a
    · rw [List.filter_cons_of_pos (by simpa using ho), apply_cons, apply_cons, ih]
    · -- The column is another one after the option, but not in this attribute.
      rw [List.filter_cons_of_neg (by simpa using ho), ih, apply_cons]
      exact (get_apply_congr (get_set_of_not_touches c ho) os).symm

theorem IsSetByLast.get_apply (h : c.IsSetByLast a os v) : (c.apply os).get a = v := by
  cases h with
  | untouched h => exact get_apply_of_not_touches c h
  | last before hwrites h =>
    rw [apply_append, apply_cons, get_apply_of_not_touches _ h, get_set_of_mem _ hwrites]

theorem isSetByLast_apply (c : Column) (os : List ColumnOption) (a : Attribute) :
    c.IsSetByLast a os ((c.apply os).get a) := by
  induction os generalizing c with
  | nil => exact .untouched nofun
  | cons o os ih =>
    have hlater := ih (c.set o)
    rw [apply_cons]
    generalize ((c.set o).apply os).get a = v at hlater
    cases hlater with
    | last before hwrites h => exact .last (o :: before) hwrites h
    | untouched h =>
      by_cases ho : o.Touches a
      · obtain ⟨⟨_, v⟩, hwrites, rfl⟩ := List.mem_map.1 ho
        rw [get_set_of_mem c hwrites]
        exact .last [] hwrites h
      · rw [get_set_of_not_touches c ho]
        exact .untouched (List.forall_mem_cons.2 ⟨ho, h⟩)

theorem get_apply_eq_iff : (c.apply os).get a = v ↔ c.IsSetByLast a os v :=
  ⟨fun h => h ▸ isSetByLast_apply c os a, IsSetByLast.get_apply⟩

/-- Two lists of options that say the same of each attribute, in the same order, do the same. -/
theorem apply_eq_of_filter_eq (c : Column) (h : ∀ a, os.filter (·.Touches a) = ps.filter (·.Touches a)) :
    c.apply os = c.apply ps := by
  refine ext_get ?_ ?_ fun a => ?_
  · rw [name_apply, name_apply]
  · rw [apply_eq_putAll, apply_eq_putAll, added_putAll, added_putAll]
  · rw [← get_apply_filter, h, get_apply_filter]

end Column

namespace Table

variable {t : Table} {name : String} {os : List ColumnOption} {c : TableColumn} {before after : List TableColumn}

/-- A modification applies its options to the first column of the name. -/
theorem columns_modify_of_first (ht : t.columns = before ++ c :: after) (hname : c.name = name)
    (hfirst : name ∉ before.map (·.name)) : (t.modify name os).columns = before ++ c.apply os :: after := by
  have hnone : before.any (·.name == name) = false := by simpa using hfirst
  have hstep : Spot.step ⟨before, c, after⟩ (.modify name os) = some ⟨before, c.apply os, after⟩ := by
    simp [Spot.step, hnone, hname]
  exact Spot.columns_step ht hstep

theorem columns_modify_of_notMem (h : name ∉ t.columns.map (·.name)) : (t.modify name os).columns = t.columns := by
  have hnone : t.columns.any (·.name == name) = false := by simpa using h
  change Spot.modified name os t.columns = t.columns
  simpa [hnone, Spot.modified, updateColumn.go] using @Spot.modified_append name os t.columns []

end Table

/-- Two lists of options that say the same of each attribute, in the same order, make the same column, each attribute is
set by the last option that touches it, and the name, the snapshot and whether the column was declared stay. A
modification applies the options to the first column of the name and leaves the other columns, the attributes of the
table and the commands before it as they are; its own command comes last, also where there is no such column. -/
theorem ColumnOption.act_by_attribute (c : TableColumn) (os : List ColumnOption) :
    (∀ ps : List ColumnOption, (∀ a, os.filter (·.Touches a) = ps.filter (·.Touches a)) → c.apply os = c.apply ps) ∧
    (∀ a v, (c.apply os).get a = v ↔ c.IsSetByLast a os v) ∧
    (c.apply os).name = c.name ∧ (c.apply os).added = c.added ∧ (c.apply os).snapshot = c.snapshot ∧
    ∀ (t : Table) (name : String),
      (t.modify name os).commands = t.commands ++ [.modifyColumn name] ∧
      { t.modify name os with columns := t.columns, commands := t.commands } = t ∧
      (name ∉ t.columns.map (·.name) → (t.modify name os).columns = t.columns) ∧
      ∀ before after, t.columns = before ++ c :: after → c.name = name → name ∉ before.map (·.name) →
        (t.modify name os).columns = before ++ c.apply os :: after := by
  have hadded : (c.apply os).added = c.added := by
    change (c.toColumn.apply os).added = c.added
    rw [Column.apply_eq_putAll, Column.added_putAll]
  refine ⟨fun ps h => ?_, fun a v => Column.get_apply_eq_iff, c.name_apply os, hadded, rfl, fun t name => ?_⟩
  · rw [TableColumn.apply, TableColumn.apply, Column.apply_eq_of_filter_eq c.toColumn h]
  · exact ⟨rfl, rfl, Table.columns_modify_of_notMem, fun before after => Table.columns_modify_of_first⟩

/-- The options of a price in two orders. Only the first of two columns of that name is modified. -/
theorem ColumnOption.act_by_attribute_of_price :
    let c : TableColumn := .loaded { name := "price", dataType := .decimal, added := false }
    let t : Table := { Table.found "t" with columns := [.ofColumn { name := "id", dataType := .int }, c, c] }
    let os : List ColumnOption := [.size 10 2, .scale 4, .allowNull, .notNull]
    c.apply os = c.apply [.allowNull, .size 10 2, .notNull, .scale 4] ∧ (c.apply os).scale = 4 ∧
      (t.modify "price" os).columns = [.ofColumn { name := "id", dataType := .int }, c.apply os, c] ∧
      (t.modify "cost" os).columns = t.columns := by
  intro c t os
  obtain ⟨horder, hlast, _, _, _, htable⟩ := act_by_attribute c os
  refine ⟨horder _ fun a => by cases a <;> rfl, ?_, ?_, ?_⟩
  · exact (hlast .scale (4 : UInt32)).2 (.last [.size 10 2] (by simp [writes]) (by simp [writes]))
  · obtain ⟨_, _, _, hfirst⟩ := htable t "price"
    exact hfirst [.ofColumn { name := "id", dataType := .int }] [c] rfl rfl (by decide)
  · obtain ⟨_, _, hnone, _⟩ := htable t "cost"
    exact hnone (by decide)

end SqlDialects
