import SqlDialects.Schema.Table

/-!
# Runs of mutations

A caller changes a table by one mutation after the other. Whether the table was declared, its name and its schema
stay; the commands of a run are the ones from before and then one for each mutation that has a command.
-/

namespace SqlDialects.Table

/-- A change of a table. -/
inductive Mutation where
  | rename (new : String)
  | drop
  | dropIfExists
  /-- A column of any sort, also a ready-made one. -/
  | add (c : TableColumn)
  | modify (name : String) (options : List ColumnOption)
  | dropColumns (names : List String)
  | remove (name : String)
  | addPrimaryKey (columns : List String)
  | dropPrimaryKey
  | addIndex (kind : IndexKind) (columns : List String) (options : List IndexOption)
  | dropIndex (name : String)
  | dropUnique (name : String)
  | dropSpatialIndex (name : String)
  | dropForeign (name : String)
  | renameIndex (old new : String)

/-- The table after a mutation. -/
def step (t : Table) : Mutation → Table
  | .rename new => t.renameTo new
  | .drop => t.drop
  | .dropIfExists => t.dropIfExists
  | .add c => t.pushColumn c
  | .modify name options => t.modify name options
  | .dropColumns names => t.dropColumns names
  | .remove name => t.removeColumn name
  | .addPrimaryKey columns => t.addPrimaryKey columns
  | .dropPrimaryKey => t.dropPrimaryKey
  | .addIndex kind columns options => t.addIndex kind columns options
  | .dropIndex name => t.dropIndex name
  | .dropUnique name => t.dropUnique name
  | .dropSpatialIndex name => t.dropSpatialIndex name
  | .dropForeign name => t.dropForeign name
  | .renameIndex old new => t.renameIndex old new

/-- The table after some mutations. -/
def run (t : Table) (ms : List Mutation) : Table :=
  ms.foldl step t

namespace Mutation

/-- The command that a mutation adds to those of a table. -/
def command? (t : Table) : Mutation → Option Command
  | rename new => some (.renameTable new)
  | drop => some (.dropTable t.fullName)
  | dropIfExists => some (.dropTableIfExists t.fullName)
  | add c => if t.added then none else some (.addColumn c.name)
  | modify name _ => some (.modifyColumn name)
  | dropColumns names => some (.dropColumns names)
  | remove _ => none
  | addPrimaryKey columns => some (.addPrimaryKey columns)
  | dropPrimaryKey => some .dropPrimaryKey
  | addIndex kind columns options => some (.addIndex (.declare kind columns options))
  | dropIndex name => some (.dropIndex name)
  | dropUnique name => some (.dropUnique name)
  | dropSpatialIndex name => some (.dropSpatialIndex name)
  | dropForeign name => some (.dropForeign name)
  | renameIndex old new => some (.renameIndex old new)

end Mutation

variable (t : Table) (m : Mutation) (ms : List Mutation)

@[simp] theorem run_nil : t.run [] = t := rfl

@[simp] theorem run_cons : t.run (m :: ms) = (t.step m).run ms := rfl

theorem run_append (ns : List Mutation) : t.run (ms ++ ns) = (t.run ms).run ns :=
  List.foldl_append

theorem pushColumn_of_added {t : Table} (h : t.added = true) (c : TableColumn) :
    t.pushColumn c = { t with columns := t.columns ++ [c] } := by
  simp [pushColumn, h]

theorem pushColumn_of_not_added {t : Table} (h : t.added = false) (c : TableColumn) :
    t.pushColumn c = { t with columns := t.columns ++ [c], commands := t.commands ++ [.addColumn c.name] } := by
  simp [pushColumn, h, push]

@[simp] theorem columns_pushColumn (c : TableColumn) : (t.pushColumn c).columns = t.columns ++ [c] := by
  cases h : t.added with
  | true => rw [pushColumn_of_added h]
  | false => rw [pushColumn_of_not_added h]

/-- What no mutation changes. -/
structure SameTable (t u : Table) : Prop where
  added : t.added = u.added
  schema : t.schema = u.schema
  fullName : t.fullName = u.fullName

theorem SameTable.refl : SameTable t t :=
  ⟨rfl, rfl, rfl⟩

theorem SameTable.trans {t u v : Table} (h : SameTable t u) (k : SameTable u v) : SameTable t v :=
  ⟨h.added.trans k.added, h.schema.trans k.schema, h.fullName.trans k.fullName⟩

theorem SameTable.command? {t u : Table} (h : SameTable t u) : m.command? t = m.command? u := by
  cases m <;> simp only [Mutation.command?, h.added, h.fullName]

theorem sameTable_step : SameTable (t.step m) t := by
  cases m with
  | add c =>
    cases h : t.added with
    | true => simp only [step, pushColumn_of_added h]; exact ⟨rfl, rfl, rfl⟩
    | false => simp only [step, pushColumn_of_not_added h]; exact ⟨rfl, rfl, rfl⟩
  | _ => exact ⟨rfl, rfl, rfl⟩

theorem sameTable_run : SameTable (t.run ms) t := by
  induction ms generalizing t with
  | nil => exact .refl t
  | cons m ms ih => exact (ih (t.step m)).trans (t.sameTable_step m)

theorem commands_step : (t.step m).commands = t.commands ++ (m.command? t).toList := by
  cases m with
  | add c =>
    cases h : t.added with
    | true => simp [step, Mutation.command?, pushColumn_of_added h, h]
    | false => simp [step, Mutation.command?, pushColumn_of_not_added h, h]
  | remove name => simp [step, Mutation.command?, removeColumn]
  | _ => rfl

/-- Commands are only appended, and each command is known without its predecessors. -/
theorem commands_run : (t.run ms).commands = t.commands ++ ms.filterMap (·.command? t) := by
  induction ms generalizing t with
  | nil => simp
  | cons m ms ih =>
    have hsame : Mutation.command? (t.step m) = Mutation.command? t :=
      funext (t.sameTable_step m).command?
    rw [run_cons, ih, commands_step, hsame, List.append_assoc, List.filterMap_cons]
    cases m.command? t <;> rfl

/-- Only who creates a table asks for its creation. -/
theorem createTable_notMem_run (h : Command.createTable ∉ t.commands) :
    Command.createTable ∉ (t.run ms).commands := by
  rw [commands_run, List.mem_append, not_or]
  refine ⟨h, fun hmem => ?_⟩
  obtain ⟨m, _, hm⟩ := List.mem_filterMap.1 hmem
  cases m with
  | add c =>
    simp only [Mutation.command?] at hm
    split at hm <;> exact absurd hm nofun
  | _ => exact absurd hm nofun

end SqlDialects.Table
