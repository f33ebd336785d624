import SqlDialects.Definition.Alteration
import SqlDialects.Proofs.Outcome
import SqlDialects.Proofs.Schema.Mutation

/-! # Commands act on their own table

The statements of a command name the table, or an index of it, in the schema of the table. The commands that drop the
table are the exception: they keep only its name, so that in a schema they name another table. -/

namespace SqlDialects

/-- A statement acts on a table, or on an index of it, under the name in the schema of the table. An index may be
created in the schema of the table on a table that is named without it. -/
def Statement.ActsOn (t : Table) : Statement → Prop
  | createTable _ table _ _ _ => table = t.qualifiedName
  | alterTable table _ _ => table = t.qualifiedName
  | renameTable table _ => table = t.qualifiedName
  | dropTable _ name => ⟨none, name⟩ = t.qualifiedName
  | commentOnTable table _ => table = t.qualifiedName
  | commentOnColumn table _ _ => table = t.qualifiedName
  | createIndex _ index table _ _ =>
    table = t.qualifiedName ∨ table.name = t.fullName ∧ ∃ name, index = t.qualifiedIndex name
  | dropIndex index => ∃ name, index = t.qualifiedIndex name
  | renameIndex index _ => ∃ name, index = t.qualifiedIndex name

def Command.dropsTable : Command → Bool
  | dropTable _ => true
  | dropTableIfExists _ => true
  | _ => false

/-- The name of a table or of an index of it, with the schema, stands in a text. -/
def Table.IsNamedIn (d : Dialect) (t : Table) (text : String) : Prop :=
  ∃ (object : QualifiedName) (before after : String),
    (object = t.qualifiedName ∨ ∃ name, object = t.qualifiedIndex name) ∧ text = before ++ object.render d ++ after

theorem Table.IsNamedIn.of_append {d : Dialect} {t : Table} {object : QualifiedName}
    (h : object = t.qualifiedName ∨ ∃ name, object = t.qualifiedIndex name) (before after : String) :
    t.IsNamedIn d (before ++ (object.render d ++ after)) :=
  ⟨object, before, after, h, (String.append_assoc ..).symm⟩

theorem Table.IsNamedIn.append_left {d : Dialect} {t : Table} {text : String} (h : t.IsNamedIn d text)
    (first : String) : t.IsNamedIn d (first ++ text) := by
  obtain ⟨object, before, after, hobject, rfl⟩ := h
  exact ⟨object, first ++ before, after, hobject, by simp only [String.append_assoc]⟩

/-- The text of a statement that acts on a table has the name that it acts on. -/
theorem Statement.ActsOn.isNamedIn {t : Table} {s : Statement} (h : s.ActsOn t) (d : Dialect) :
    t.IsNamedIn d (s.render d) := by
  -- Opened before the cases: the equations of `render` for a single case are slow to make.
  unfold render
  cases s with
  | createIndex unique index table algorithm columns =>
    simp only [String.append_assoc]
    obtain htable | ⟨_, hindex⟩ := h
    · exact ((Table.IsNamedIn.of_append (.inl htable) _ _).append_left _).append_left _
    · exact .of_append (.inr hindex) _ _
  | dropIndex index | renameIndex index =>
    simp only [String.append_assoc]
    exact .of_append (.inr h) _ _
  | dropTable ifExists name =>
    simp only [String.append_assoc]
    exact @Table.IsNamedIn.of_append d t ⟨none, name⟩ (.inl h) _ _
  | _ =>
    simp only [String.append_assoc]
    exact .of_append (.inl h) _ _

namespace Table

variable {d : Dialect} {t : Table} {ss : List Statement} {name : String}

theorem actsOn_alter {alterations : List Alteration} (h : t.alter alterations = .ok ss) : ∀ s ∈ ss, s.ActsOn t := by
  cases h
  exact List.forall_mem_singleton.2 rfl

theorem actsOn_addKey {columns : List String} (h : t.addKey d columns = .ok ss) : ∀ s ∈ ss, s.ActsOn t := by
  cases d with
  | sqlite => exact absurd h nofun
  | _ => exact actsOn_alter h

theorem actsOn_dropKey (h : t.dropKey d = .ok ss) : ∀ s ∈ ss, s.ActsOn t := by
  cases d with
  | sqlite => exact absurd h nofun
  | _ => exact actsOn_alter h

theorem actsOn_createIndex {index : Index} (h : t.createIndex d index = .ok ss) : ∀ s ∈ ss, s.ActsOn t := by
  unfold createIndex at h
  cases d with
  | mysql =>
    cases hkind : index.kind <;> rw [hkind] at h
    case primary => exact actsOn_addKey h
    case gin => exact absurd h nofun
    all_goals exact actsOn_alter h
  | postgres =>
    cases hkind : index.kind <;> rw [hkind] at h
    case primary => exact actsOn_addKey h
    case unique => exact actsOn_alter h
    case fullText => exact absurd h nofun
    all_goals
      cases h
      exact List.forall_mem_singleton.2 (.inl rfl)
  | sqlite =>
    cases hkind : index.kind <;> rw [hkind] at h
    case normal | unique =>
      cases h
      exact List.forall_mem_singleton.2 (.inr ⟨rfl, index.name, rfl⟩)
    all_goals exact absurd h nofun

theorem actsOn_removeIndex (h : t.removeIndex d name = .ok ss) : ∀ s ∈ ss, s.ActsOn t := by
  cases d with
  | mysql => exact actsOn_alter h
  | _ =>
    cases h
    exact List.forall_mem_singleton.2 ⟨name, rfl⟩

theorem actsOn_removeUnique (h : t.removeUnique d name = .ok ss) : ∀ s ∈ ss, s.ActsOn t := by
  cases d with
  | mysql => exact actsOn_removeIndex (d := .mysql) h
  | postgres => exact actsOn_alter h
  | sqlite => exact actsOn_removeIndex (d := .sqlite) h

theorem actsOn_removeSpatialIndex (h : t.removeSpatialIndex d name = .ok ss) : ∀ s ∈ ss, s.ActsOn t := by
  cases d with
  | mysql => exact actsOn_removeIndex (d := .mysql) h
  | postgres => exact actsOn_removeIndex (d := .postgres) h
  | sqlite => exact absurd h nofun

theorem actsOn_removeForeign (h : t.removeForeign d name = .ok ss) : ∀ s ∈ ss, s.ActsOn t := by
  cases d with
  | sqlite => exact absurd h nofun
  | _ => exact actsOn_alter h

theorem actsOn_changeIndexName {old new : String} (h : t.changeIndexName d old new = .ok ss) :
    ∀ s ∈ ss, s.ActsOn t := by
  cases d with
  | mysql => exact actsOn_alter h
  | postgres =>
    cases h
    exact List.forall_mem_singleton.2 ⟨old, rfl⟩
  | sqlite => exact absurd h nofun

theorem actsOn_changeName (d : Dialect) (t : Table) (new : String) : ∀ s ∈ t.changeName d new, s.ActsOn t := by
  cases d <;> exact List.forall_mem_singleton.2 rfl

theorem actsOn_dropColumnsNow (d : Dialect) (t : Table) (names : List String) :
    ∀ s ∈ t.dropColumnsNow d names, s.ActsOn t := by
  unfold dropColumnsNow
  split
  · rintro s hs
    obtain ⟨name, _, rfl⟩ := List.mem_map.1 hs
    rfl
  · exact List.forall_mem_singleton.2 rfl
  · exact List.forall_mem_singleton.2 rfl

theorem actsOn_commentsOn (t : Table) (nameOf : Column → String) (columns : List TableColumn) :
    ∀ s ∈ t.commentsOn nameOf columns, s.ActsOn t := by
  intro s hs
  obtain ⟨c, _, hcomment⟩ := List.mem_filterMap.1 hs
  obtain ⟨text, _, rfl⟩ := Option.map_eq_some_iff.1 hcomment
  rfl

theorem actsOn_create (h : t.create d = .ok ss) : ∀ s ∈ ss, s.ActsOn t := by
  obtain ⟨definitions, _, h⟩ := except_bind_eq_ok.1 h
  cases h
  refine List.forall_mem_cons.2 ⟨rfl, ?_⟩
  cases d with
  | postgres =>
    refine List.forall_mem_append.2 ⟨fun s hs => ?_, actsOn_commentsOn t _ _⟩
    obtain ⟨text, _, rfl⟩ := Option.map_eq_some_iff.1 (Option.mem_toList.1 hs)
    rfl
  | _ => simp [creationComments]

theorem actsOn_addColumn (h : t.addColumn d name = .ok ss) : ∀ s ∈ ss, s.ActsOn t := by
  obtain ⟨c, _, h⟩ := except_bind_eq_ok.1 h
  obtain ⟨definition, _, rfl⟩ := except_map_eq_ok.1 h
  refine List.forall_mem_cons.2 ⟨rfl, ?_⟩
  cases d with
  | postgres => exact actsOn_commentsOn t _ _
  | _ => simp [additionComments]

theorem actsOn_postgresModifications {columns : List TableColumn} (h : t.postgresModifications columns = .ok ss) :
    ∀ s ∈ ss, s.ActsOn t := by
  obtain ⟨alterations, _, h⟩ := except_bind_eq_ok.1 h
  cases h
  refine List.forall_mem_append.2 ⟨fun s hs => ?_, List.forall_mem_cons.2 ⟨rfl, actsOn_commentsOn t _ _⟩⟩
  obtain ⟨c, _, hs⟩ := List.mem_flatMap.1 hs
  unfold renameStatements at hs
  split at hs
  · obtain rfl := List.mem_singleton.1 hs
    rfl
  · cases hs

theorem actsOn_modifyColumn (h : t.modifyColumn d name = .ok ss) : ∀ s ∈ ss, s.ActsOn t := by
  cases d with
  | sqlite => exact absurd h nofun
  | mysql =>
    obtain ⟨c, _, h⟩ := except_bind_eq_ok.1 h
    obtain ⟨alteration, _, h⟩ := except_bind_eq_ok.1 h
    cases h
    exact List.forall_mem_singleton.2 rfl
  | postgres =>
    obtain ⟨c, _, h⟩ := except_bind_eq_ok.1 h
    exact actsOn_postgresModifications h

/-- Whatever does not drop the table acts on it. -/
theorem actsOn_statements {c : Command} (hc : c.dropsTable = false) (h : c.statements d t = .ok ss) :
    ∀ s ∈ ss, s.ActsOn t := by
  cases c with
  | createTable => exact actsOn_create h
  | addColumn name => exact actsOn_addColumn h
  | modifyColumn name => exact actsOn_modifyColumn h
  | dropColumns names => cases h; exact actsOn_dropColumnsNow d t names
  | renameTable new => cases h; exact actsOn_changeName d t new
  | dropTable name => cases hc
  | dropTableIfExists name => cases hc
  | addPrimaryKey columns => exact actsOn_addKey h
  | dropPrimaryKey => exact actsOn_dropKey h
  | addIndex index => exact actsOn_createIndex h
  | dropIndex name => exact actsOn_removeIndex h
  | dropUnique name => exact actsOn_removeUnique h
  | dropSpatialIndex name => exact actsOn_removeSpatialIndex h
  | dropForeign name => exact actsOn_removeForeign h
  | renameIndex old new => exact actsOn_changeIndexName h

/-- A command that drops the table has its name at the time of the mutation, without the schema. -/
theorem statements_of_dropsTable {m : Mutation} {c : Command} {u : Table} (hm : m.command? t = some c)
    (hc : c.dropsTable = true) (h : c.statements d u = .ok ss) : ∃ ifExists, ss = [.dropTable ifExists t.fullName] := by
  cases m with
  | drop =>
    cases hm
    cases h
    exact ⟨false, rfl⟩
  | dropIfExists =>
    cases hm
    cases h
    exact ⟨true, rfl⟩
  | add column =>
    obtain ⟨_, hm⟩ := Option.ite_none_left_eq_some.1 hm
    cases hm
    cases hc
  | _ => cases hm <;> cases hc

/-- The statements of the commands that a run of mutations appends act on the table of the run, except that those that
drop it do so exactly if the table has no schema. A statement that acts on the table has its qualified name, or that of
an index, in its text. -/
theorem run_statements_actOn_iff (d : Dialect) (t : Table) (ms : List Mutation) (appended : List Command)
    (hrun : (t.run ms).commands = t.commands ++ appended) (c : Command) (hc : c ∈ appended) (ss : List Statement)
    (h : c.statements d (t.run ms) = .ok ss) :
    ((∀ s ∈ ss, s.ActsOn (t.run ms)) ↔ (c.dropsTable = true → t.schema = none)) ∧
      ∀ s ∈ ss, s.ActsOn (t.run ms) → (t.run ms).IsNamedIn d (s.render d) := by
  refine ⟨?_, fun s _ hs => hs.isNamedIn d⟩
  have happended : appended = ms.filterMap (·.command? t) :=
    List.append_cancel_left (hrun.symm.trans (t.commands_run ms))
  obtain ⟨m, _, hm⟩ := List.mem_filterMap.1 (happended ▸ hc)
  cases hdrops : c.dropsTable with
  | false => exact iff_of_true (actsOn_statements hdrops h) nofun
  | true =>
    obtain ⟨ifExists, rfl⟩ := statements_of_dropsTable hm hdrops h
    have hsame := t.sameTable_run ms
    have hname : (t.run ms).qualifiedName = ⟨t.schema, t.fullName⟩ := by
      rw [qualifiedName, hsame.schema, hsame.fullName]
    simp [Statement.ActsOn, hname, eq_comm]

/-- In the schema `app`, the command that drops the table names a table outside of the schema, while the one that drops
a column names the table in it. -/
theorem run_statements_actOn_iff_of_schema :
    let t : Table := { Table.found "users" with schema := some "app", namePrefix := "t_" }
    let u := t.run [.drop, .dropColumns ["a"]]
    u.commands = [.dropTable "t_users", .dropColumns ["a"]] ∧
      (Command.dropTable "t_users").text .postgres u = .ok "DROP TABLE \"t_users\";" ∧
      ¬ (Statement.dropTable false "t_users").ActsOn u ∧
      (Command.dropColumns ["a"]).text .postgres u = .ok "ALTER TABLE \"app\".\"t_users\" DROP COLUMN \"a\";" ∧
      (Statement.alterTable ⟨some "app", "t_users"⟩ .oneLine [.dropColumn "a"]).ActsOn u := by
  intro t u
  have hrun : u.commands = t.commands ++ [.dropTable "t_users", .dropColumns ["a"]] := by rfl
  have hdrop := (run_statements_actOn_iff .postgres t [.drop, .dropColumns ["a"]] _ hrun (.dropTable "t_users")
    List.mem_cons_self _ rfl).1
  have hcolumn := (run_statements_actOn_iff .postgres t [.drop, .dropColumns ["a"]] _ hrun (.dropColumns ["a"])
    (List.mem_cons_of_mem _ List.mem_cons_self) _ rfl).1
  have hdropText : Statement.script .postgres [.dropTable false "t_users"] = "DROP TABLE \"t_users\";" := by
    decide +kernel
  have hcolumnText : Statement.script .postgres
      [.alterTable ⟨some "app", "t_users"⟩ .oneLine [.dropColumn "a"]] =
        "ALTER TABLE \"app\".\"t_users\" DROP COLUMN \"a\";" := by
    decide +kernel
  refine ⟨hrun, congrArg Except.ok hdropText, fun hacts => ?_, congrArg Except.ok hcolumnText,
    hcolumn.2 nofun _ List.mem_cons_self⟩
  have hschema : some "app" = none := hdrop.1 (List.forall_mem_singleton.2 hacts) rfl
  cases hschema

end Table
end SqlDialects
